import Workbench.Proofs.Toml.Spelling
import Workbench.Toml.Reading

set_option relaxedAutoImplicit false
set_option autoImplicit false

/-!
# Headers and fields, written and read

A document that consists of headers of repeated tables and of lines that give texts to keys is read
statement by statement, and the statements are those that were written.

## Main definitions

* `Workbench.Toml.IsKey` — keys that are plain words.
* `Workbench.Toml.IsField` — the lines that give a text to a key.
* `Workbench.Toml.AreFields` — such lines, one below the other.

## Main results

* `Workbench.Toml.statements?_header` — a header of a repeated table is read.
* `Workbench.Toml.statements?_fields` — lines that give texts to keys are read.
* `Workbench.Toml.sections_fields` — they belong to the header before them.
-/

namespace Workbench.Toml

/-- A key that is a plain word. -/
def IsKey (key : String) : Prop := key.toList ≠ [] ∧ ∀ c ∈ key.toList, isWordCharacter c = true

/-- A line that gives a text to a key. -/
def IsField (key s : String) (line : List Char) : Prop :=
  ∃ body, SpellsAll s.toList body ∧
    line = key.toList ++ ' ' :: '=' :: ' ' :: quotationMark :: (body ++ [quotationMark, '\n'])

/-- Lines that give texts to keys, one below the other. -/
inductive AreFields : List (String × String) → List Char → Prop where
  | nil : AreFields [] []
  | cons {key s : String} {fields : List (String × String)} {line rest : List Char}
    (hline : IsField key s line) (hrest : AreFields fields rest) :
    AreFields ((key, s) :: fields) (line ++ rest)

/-! ### Between statements -/

/-- The characters that may stand between statements. -/
def isTrivial (c : Char) : Bool := c ∈ ['\n', '\r', ' ', '\t', '#']

/-- Nothing is skipped in front of a statement. -/
lemma skipTrivia_cons {c : Char} (h : isTrivial c = false) (rest : List Char) :
    skipTrivia false (c :: rest) = c :: rest := by
  simp only [isTrivial, List.mem_cons, List.not_mem_nil, or_false, decide_eq_false_iff_not,
    not_or] at h
  obtain ⟨hfeed, hreturn, hspace, htab, hmark⟩ := h
  rw [skipTrivia]
  · simp [isSpace, hspace, htab, hmark]
  · exact hfeed
  · exact fun _ he => absurd he hreturn

/-- The statements of a text that starts with one. -/
lemma statements?_cons {c : Char} {cs last : List Char} {statement : Statement}
    (h : isTrivial c = false) (hline : statementLine? (c :: cs) = some (statement, last))
    (hshort : last.length < (c :: cs).length) :
    statements? (c :: cs) = (statements? last).map (statement :: ·) := by
  rw [statements?, skipTrivia_cons h]
  simp only [hline]
  rw [if_pos hshort]

/-- The statements of a text that does not start between statements start with one. -/
lemma exists_of_statements? {c : Char} {cs : List Char} {statements : List Statement}
    (h : isTrivial c = false) (hs : statements? (c :: cs) = some statements) :
    ∃ statement last rest, statementLine? (c :: cs) = some (statement, last) ∧
      statements = statement :: rest := by
  rw [statements?, skipTrivia_cons h] at hs
  simp only at hs
  split at hs
  · simp at hs
  · next statement last hline =>
    split at hs
    · obtain ⟨rest, -, rfl⟩ := Option.map_eq_some_iff.1 hs
      exact ⟨statement, last, rest, hline, rfl⟩
    · simp at hs

/-! ### Keys -/

/-- A character of a plain word is no space. -/
lemma isTrivial_of_isWordCharacter {c : Char} (h : isWordCharacter c = true) :
    isTrivial c = false := by
  cases ht : isTrivial c with
  | false => rfl
  | true =>
    simp only [isTrivial, decide_eq_true_eq, List.mem_cons, List.not_mem_nil, or_false] at ht
    rcases ht with rfl | rfl | rfl | rfl | rfl <;> exact absurd h (by decide)

section Keys

variable {key : String} (hkey : IsKey key) (rest : List Char)

include hkey

/-- A plain word ends at the first other character. -/
lemma key?_append {c : Char} (hc : isWordCharacter c = false) :
    key? (key.toList ++ c :: rest) = some (key, c :: rest) := by
  obtain ⟨hne, hword⟩ := hkey
  have htake : (key.toList ++ c :: rest).takeWhile isWordCharacter = key.toList := by
    rw [List.takeWhile_append_of_pos hword, List.takeWhile_cons_of_neg (by simp [hc]), List.append_nil]
  have hdrop : (key.toList ++ c :: rest).dropWhile isWordCharacter = c :: rest := by
    rw [List.dropWhile_append_of_pos hword, List.dropWhile_cons_of_neg (by simp [hc])]
  rw [key?, htake, hdrop]
  simp [hne]

/-- A plain word is a path of one key, if no point follows. -/
lemma keyPath?_append {c : Char} (hc : isWordCharacter c = false) {d : Char} {more : List Char}
    (hskip : skipSpaces (c :: rest) = d :: more) (hd : d ≠ '.') :
    keyPath? (key.toList ++ c :: rest) = some ([key], d :: more) := by
  have hkeys : keys? (key.toList ++ c :: rest) = some ([key], d :: more) := by
    rw [keys?, key?_append hkey rest hc]
    simp only [hskip]
    split
    · next hpoint => exact absurd (List.cons.inj hpoint).1 hd
    · rfl
  rw [keyPath?, hkeys]
  rfl

end Keys

/-! ### Fields -/

section Fields

variable {key s : String} (hkey : IsKey key)

include hkey

/-- A line that gives something with a quotation mark to a key is read as that. -/
lemma statement?_append (cs : List Char) :
    statement? (key.toList ++ ' ' :: '=' :: ' ' :: quotationMark :: cs) =
      (simple? (quotationMark :: cs)).map fun (v, rest) => (.assigns [key] v, rest) := by
  have hpath : keyPath? (key.toList ++ ' ' :: '=' :: ' ' :: quotationMark :: cs) =
      some ([key], '=' :: ' ' :: quotationMark :: cs) :=
    keyPath?_append hkey _ (by decide) rfl (by decide)
  have hhead : (key.toList ++ ' ' :: '=' :: ' ' :: quotationMark :: cs).head? ≠ some '[' := by
    obtain ⟨hne, hword⟩ := hkey
    obtain ⟨c, more, hcons⟩ := List.exists_cons_of_ne_nil hne
    rw [hcons, List.cons_append, List.head?_cons]
    rintro ⟨rfl⟩
    exact absurd (hword '[' (by simp [hcons])) (by decide)
  have hvalue : value? deepest (quotationMark :: cs) = simple? (quotationMark :: cs) := rfl
  rw [statement?, if_neg hhead, assignment?, hpath]
  change ((value? deepest (quotationMark :: cs)).bind fun (v, rest) => some (([key], v), rest)).map _ = _
  rw [hvalue]
  cases simple? (quotationMark :: cs) <;> rfl

/-- **A line that gives a text to a key is read.** -/
lemma statementLine?_field {line : List Char} (h : IsField key s line) (rest : List Char) :
    statementLine? (line ++ rest) = some (.assigns [key] (.text s), rest) := by
  obtain ⟨body, hbody, rfl⟩ := h
  have hshape : key.toList ++ ' ' :: '=' :: ' ' :: quotationMark ::
      (body ++ [quotationMark, '\n']) ++ rest =
        key.toList ++ ' ' :: '=' :: ' ' :: quotationMark ::
          (body ++ quotationMark :: '\n' :: rest) := by simp
  have hsimple : simple? (quotationMark :: (body ++ quotationMark :: '\n' :: rest)) =
      some (.text s, '\n' :: rest) := by
    rw [simple?, quoted?_spellsAll _ hbody (by simp [quotationMark])]
    simp
  rw [hshape, statementLine?, statement?_append hkey, hsimple]
  rfl

/-- The statements of a text that starts with a line of a field. -/
lemma statements?_field {line : List Char} (h : IsField key s line) (rest : List Char) :
    statements? (line ++ rest) =
      (statements? rest).map (.assigns [key] (.text s) :: ·) := by
  have hread := statementLine?_field hkey h rest
  obtain ⟨body, -, rfl⟩ := h
  obtain ⟨hne, hword⟩ := hkey
  obtain ⟨c, more, hcons⟩ := List.exists_cons_of_ne_nil hne
  rw [hcons] at hread ⊢
  refine statements?_cons (isTrivial_of_isWordCharacter (hword c (by simp [hcons]))) hread ?_
  simp
  omega

end Fields

/-- **Lines that give texts to keys are read**, in order. -/
theorem statements?_fields {fields : List (String × String)} {lines : List Char}
    (h : AreFields fields lines) (hkeys : ∀ field ∈ fields, IsKey field.1) (rest : List Char) :
    statements? (lines ++ rest) =
      (statements? rest).map (fields.map (fun field => .assigns [field.1] (.text field.2)) ++ ·) := by
  induction h with
  | nil => simp
  | cons hline hrest ih =>
    obtain ⟨hkey, hothers⟩ := List.forall_mem_cons.1 hkeys
    rw [List.append_assoc, statements?_field hkey hline, ih hothers, Option.map_map]
    rfl

/-! ### Headers -/

/-- The line of the header of a repeated table. -/
def headerLine (key : String) : List Char := '[' :: '[' :: (key.toList ++ [']', ']', '\n'])

/-- **A header of a repeated table is read.** -/
theorem statements?_header {key : String} (hkey : IsKey key) (rest : List Char) :
    statements? (headerLine key ++ rest) =
      (statements? rest).map (.opens (.repeated [key]) :: ·) := by
  have hshape : headerLine key ++ rest = '[' :: '[' :: (key.toList ++ ']' :: ']' :: '\n' :: rest) := by
    simp [headerLine]
  have hskip : skipSpaces (key.toList ++ ']' :: ']' :: '\n' :: rest) =
      key.toList ++ ']' :: ']' :: '\n' :: rest := by
    obtain ⟨hne, hword⟩ := hkey
    obtain ⟨c, more, hcons⟩ := List.exists_cons_of_ne_nil hne
    have hc := isTrivial_of_isWordCharacter (hword c (by simp [hcons]))
    have hspace : isSpace c = false := by
      simp only [isTrivial, decide_eq_false_iff_not, List.mem_cons, not_or] at hc
      simp [isSpace, hc]
    rw [skipSpaces, hcons, List.cons_append, List.dropWhile_cons_of_neg (by simp [hspace])]
  have hline : statementLine? ('[' :: '[' :: (key.toList ++ ']' :: ']' :: '\n' :: rest)) =
      some (.opens (.repeated [key]), rest) := by
    have hstatement : statement? ('[' :: '[' :: (key.toList ++ ']' :: ']' :: '\n' :: rest)) =
        some (.opens (.repeated [key]), '\n' :: rest) := by
      rw [statement?, if_pos List.head?_cons, header?, hskip,
        keyPath?_append hkey (']' :: '\n' :: rest) (by decide) rfl (by decide)]
      rfl
    rw [statementLine?, hstatement]
    rfl
  rw [hshape]
  refine statements?_cons (by decide) hline ?_
  simp
  omega

/-! ### Sections -/

/-- Assignments belong to the header before them. -/
lemma sections_fields (fields : List (String × String)) (statements : List Statement) :
    sections (fields.map (fun field => .assigns [field.1] (.text field.2)) ++ statements) =
      (fields.map (fun field => ([field.1], .text field.2)) ++ (sections statements).1,
        (sections statements).2) := by
  induction fields with
  | nil => rfl
  | cons field fields ih =>
    rw [List.map_cons, List.cons_append, sections, ih]
    rfl

end Workbench.Toml
