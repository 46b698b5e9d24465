import Mathlib.Algebra.Group.Nat.Defs
import Mathlib.Tactic.Lemma
import Workbench.Proofs.Text.Digits
import Workbench.Toml.Number
import Workbench.Toml.Quoted
import Workbench.Version.Printing

set_option relaxedAutoImplicit false
set_option autoImplicit false

/-!
# Texts between quotation marks, written and read

A text can be written between quotation marks in many ways: a character stands for itself, or it is
written as a letter or a number after a backslash. However it is written, it is read back. The printer
chooses one of these ways.

## Main definitions

* `Workbench.Toml.isVerbatim` — the characters that can stand for themselves.
* `Workbench.Toml.Spells`, `Workbench.Toml.SpellsAll` — the ways to write a character and a text.

## Main results

* `Workbench.Toml.basic_spellsAll` — a text is read back, however it is written.
* `Workbench.Toml.quoted?_spellsAll` — the same for the text with its quotation marks.
* `Workbench.Toml.spellsAll_verbatim` — a text whose characters stand for themselves.
* `Workbench.Toml.spellsAll_escaped` — what is printed is one of the ways.
-/

namespace Workbench.Toml

/-- Whether a character can stand for itself between quotation marks. -/
def isVerbatim (c : Char) : Bool := isPlain c && c != quotationMark && c != '\\'

/-- The ways to write a character between quotation marks. -/
inductive Spells (c : Char) : List Char → Prop where
  /-- The character itself. -/
  | verbatim (h : isVerbatim c = true) : Spells c [c]
  /-- A letter after a backslash. -/
  | letter {l : Char} (h : letterEscape? l = some c) : Spells c ['\\', l]
  /-- The number of the character in hexadecimal, after a letter that tells how many digits it has. -/
  | number {l : Char} {ds : List Char} {values : List Nat} (hl : digitsAfter? l = some ds.length)
    (hd : ds.mapM (Text.digitValue? 16) = some values) (hc : ofDigits 16 values = c.toNat) :
    Spells c ('\\' :: l :: ds)

/-- The ways to write a text between quotation marks. -/
inductive SpellsAll : List Char → List Char → Prop where
  | nil : SpellsAll [] []
  | cons {c : Char} {cs front rest : List Char} (hc : Spells c front) (hcs : SpellsAll cs rest) :
    SpellsAll (c :: cs) (front ++ rest)

/-- What a character that stands for itself is not. -/
lemma isVerbatim_iff {c : Char} :
    isVerbatim c = true ↔ isPlain c = true ∧ c ≠ quotationMark ∧ c ≠ '\\' := by
  simp [isVerbatim, and_assoc]

/-! ### Steps of the reader -/

section Steps

variable (c : Char) (rest : List Char)

/-- What a character does between characters. -/
lemma basic_plain_cons : basic .plain (c :: rest) =
    if c = quotationMark then some ([], rest)
    else if c = '\\' then basic .opened rest
    else if isPlain c then push c (basic .plain rest)
    else none := rfl

/-- What a character does after a backslash. -/
lemma basic_opened_cons : basic .opened (c :: rest) =
    match afterBackslash? c with
    | some (.inl d) => push d (basic .plain rest)
    | some (.inr next) => basic next rest
    | none => none := rfl

/-- What a character does in the number of an escape. -/
lemma basic_digits_cons (missing value : Nat) : basic (.digits missing value) (c :: rest) =
    match afterDigit? missing value c with
    | some (.inl d) => push d (basic .plain rest)
    | some (.inr next) => basic next rest
    | none => none := rfl

end Steps

/-! ### Reading what was written -/

section Written

variable {c : Char} (rest : List Char)

/-- A character that stands for itself is read. -/
lemma basic_of_isVerbatim (h : isVerbatim c = true) :
    basic .plain (c :: rest) = push c (basic .plain rest) := by
  obtain ⟨hplain, hmark, hback⟩ := isVerbatim_iff.1 h
  rw [basic_plain_cons, if_neg hmark, if_neg hback, if_pos hplain]

/-- A backslash begins an escape. -/
lemma basic_backslash : basic .plain ('\\' :: rest) = basic .opened rest := rfl

/-- The number of a character is read digit by digit.

**Proof sketch.** Induction on the digits, with the value of those before them. -/
lemma basic_digits {ds : List Char} {values : List Nat} {value : Nat} (hne : ds ≠ [])
    (hd : ds.mapM (Text.digitValue? 16) = some values)
    (hc : values.foldl (fun n d => n * 16 + d) value = c.toNat) :
    basic (.digits ds.length value) (ds ++ rest) = push c (basic .plain rest) := by
  induction ds generalizing value values with
  | nil => exact absurd rfl hne
  | cons d ds ih =>
    rw [List.mapM_cons] at hd
    obtain ⟨v, hv, hd⟩ := Option.bind_eq_some_iff.1 hd
    obtain ⟨vs, hvs, hd⟩ := Option.bind_eq_some_iff.1 hd
    obtain rfl : v :: vs = values := Option.some.inj hd
    rw [List.foldl_cons, Nat.mul_comm] at hc
    rw [List.cons_append, basic_digits_cons]
    cases ds with
    | nil =>
      obtain rfl : [] = vs := Option.some.inj hvs
      have hchar : character? (16 * value + v) = some c := by
        have hn : 16 * value + v = c.toNat := hc
        have hvalid : c.toNat.isValidChar := c.valid
        rw [hn, character?, if_pos hvalid, Char.ofNat_toNat]
      simp [afterDigit?, hv, hchar]
    | cons e ds =>
      have hlast : ¬ (d :: e :: ds).length ≤ 1 := by simp
      have hstep : afterDigit? (d :: e :: ds).length value d =
          some (.inr (.digits (e :: ds).length (16 * value + v))) := by
        simp [afterDigit?, hv]
      rw [hstep]
      exact ih (by simp) hvs hc

/-- **A character is read back, however it is written.** -/
lemma basic_spells {front : List Char} (h : Spells c front) :
    basic .plain (front ++ rest) = push c (basic .plain rest) := by
  cases h with
  | verbatim h => exact basic_of_isVerbatim rest h
  | letter h =>
    rw [List.cons_append, List.cons_append, List.nil_append, basic_backslash, basic_opened_cons,
      afterBackslash?, h]
    rfl
  | @number l ds values hl hd hc =>
    have hletter : letterEscape? l = none := by
      unfold digitsAfter? at hl
      split at hl
      · rfl
      · rfl
      · rfl
      · simp at hl
    have hne : ds ≠ [] := by
      rintro rfl
      unfold digitsAfter? at hl
      split at hl <;> simp at hl
    rw [List.cons_append, List.cons_append, basic_backslash, basic_opened_cons, afterBackslash?,
      hletter, hl]
    exact basic_digits rest hne hd hc

/-- **A text is read back, however it is written**, up to the mark that ends it. -/
theorem basic_spellsAll {cs body : List Char} (h : SpellsAll cs body) :
    basic .plain (body ++ quotationMark :: rest) = some (cs, rest) := by
  induction h with
  | nil => rfl
  | cons hc hcs ih =>
    rw [List.append_assoc, basic_spells _ hc, ih]
    rfl

/-- What is written for a character does not start with a quotation mark. -/
lemma Spells.exists_cons {front : List Char} (h : Spells c front) :
    ∃ d more, front = d :: more ∧ d ≠ quotationMark := by
  cases h with
  | verbatim h => exact ⟨c, [], rfl, (isVerbatim_iff.1 h).2.1⟩
  | letter h => exact ⟨'\\', _, rfl, by decide⟩
  | number hl hd hc => exact ⟨'\\', _, rfl, by decide⟩

/-- A text that starts with one mark is a text on one line, if not with three. -/
lemma quoted?_cons {cs : List Char} (h : ∀ more, cs ≠ quotationMark :: quotationMark :: more) :
    quoted? (quotationMark :: cs) = basic .plain cs := by
  unfold quoted?
  split
  · next more hmore => exact absurd (List.cons.inj hmore).2 (h more)
  · next hmore => simp [quotationMark] at hmore
  · rfl

/-- **A text with its quotation marks is read back, however it is written**, unless another mark follows
that makes it a text of several lines. -/
theorem quoted?_spellsAll {cs body : List Char} (h : SpellsAll cs body)
    (hrest : rest.head? ≠ some quotationMark) :
    quoted? (quotationMark :: (body ++ quotationMark :: rest)) = some (cs, rest) := by
  rw [quoted?_cons, basic_spellsAll rest h]
  intro more hmore
  cases h with
  | nil =>
    obtain ⟨-, hmore⟩ := List.cons.inj hmore
    simp [hmore] at hrest
  | cons hc hcs =>
    obtain ⟨d, front, rfl, hd⟩ := hc.exists_cons
    exact hd (List.cons.inj hmore).1

end Written

/-! ### Texts that stand for themselves -/

/-- A text whose characters stand for themselves is written as it is. -/
lemma spellsAll_verbatim {cs : List Char} (h : ∀ c ∈ cs, isVerbatim c = true) : SpellsAll cs cs := by
  induction cs with
  | nil => exact .nil
  | cons c cs ih =>
    obtain ⟨hc, hcs⟩ := List.forall_mem_cons.1 h
    exact .cons (.verbatim hc) (ih hcs)

/-! ### What is printed -/

/-- One more digit makes a number sixteen times as large, and adds its value. -/
lemma mapM_digitValue?_concat {ds : List Char} {values : List Nat} {n : Nat} (hn : n < 16)
    (h : ds.mapM (Text.digitValue? 16) = some values) :
    (ds ++ [Text.lowerDigit n]).mapM (Text.digitValue? 16) = some (values ++ [n]) ∧
      ofDigits 16 (values ++ [n]) = ofDigits 16 values * 16 + n := by
  refine ⟨?_, by simp [ofDigits]⟩
  rw [List.mapM_append, h]
  simp [Text.digitValue?_lowerDigit hn]

/-- Superfluous zeros are read as zero. -/
lemma mapM_digitValue?_zeros (k : Nat) :
    ∃ values, (List.replicate k '0').mapM (Text.digitValue? 16) = some values ∧
      ofDigits 16 values = 0 := by
  induction k with
  | zero => exact ⟨[], rfl, rfl⟩
  | succ k ih =>
    obtain ⟨values, hvalues, hzero⟩ := ih
    have hmore := mapM_digitValue?_concat (n := 0) (by decide) hvalues
    refine ⟨values ++ [0], ?_, by rw [hmore.2, hzero]⟩
    rw [List.replicate_succ']
    exact hmore.1

/-- A number that has no more digits than asked for is written with as many as asked for, and they are
read as that number.

**Proof sketch.** Induction along the digits. The last one is the remainder, and those before it are
the digits of the quotient. -/
lemma hexNumber_digits {width n : Nat} (hw : 0 < width) (h : n < 16 ^ width) :
    (Text.hexNumber width n).length = width ∧
      ∃ values, (Text.hexNumber width n).mapM (Text.digitValue? 16) = some values ∧
        ofDigits 16 values = n := by
  fun_induction Text.hexNumber width n with
  | case1 width n hn =>
    obtain ⟨values, hvalues, hzero⟩ := mapM_digitValue?_zeros (width - 1)
    obtain ⟨hread, hvalue⟩ := mapM_digitValue?_concat hn hvalues
    refine ⟨by simp; omega, values ++ [n], hread, by omega⟩
  | case2 width n hn ih =>
    obtain ⟨k, rfl⟩ : ∃ k, width = k + 1 := ⟨width - 1, by omega⟩
    rw [Nat.add_sub_cancel] at ih ⊢
    have hpos : 0 < k := by
      rcases Nat.eq_zero_or_pos k with rfl | hk
      · simp at h
        omega
      · exact hk
    have hquot : n / 16 < 16 ^ k := by
      rw [Nat.pow_succ] at h
      omega
    obtain ⟨hlength, values, hvalues, hvalue⟩ := ih hpos hquot
    obtain ⟨hread, hmore⟩ := mapM_digitValue?_concat (Nat.mod_lt n (by decide : 0 < 16)) hvalues
    refine ⟨by simp [hlength], values ++ [n % 16], hread, by omega⟩

/-- **What is printed for a character is one of the ways to write it.** -/
lemma spells_escaped (c : Char) : Spells c (escaped c) := by
  unfold escaped
  split
  · next h =>
    subst h
    exact .letter rfl
  split
  · next h =>
    subst h
    exact .letter rfl
  split
  · next hmark hback h =>
    simp only [Bool.and_eq_true] at h
    exact .verbatim (isVerbatim_iff.2 ⟨h.1, hmark, hback⟩)
  · next h =>
    have hlt : c.toNat < 16 ^ 4 := by
      by_cases htab : c = '\t'
      · rw [htab]
        decide
      · have hcontrol : isPlain c = false := by simpa [htab] using h
        simp only [isPlain, Bool.or_eq_false_iff, Bool.and_eq_false_iff, decide_eq_false_iff_not,
          bne_eq_false_iff_eq] at hcontrol
        omega
    obtain ⟨hlength, values, hd, hc⟩ := hexNumber_digits (by decide) hlt
    exact .number (by rw [hlength]; rfl) hd hc

/-- What is printed for a text is one of the ways to write it. -/
lemma spellsAll_escaped (cs : List Char) : SpellsAll cs (cs.flatMap escaped) := by
  induction cs with
  | nil => exact .nil
  | cons c cs ih => exact .cons (spells_escaped c) ih

end Workbench.Toml
