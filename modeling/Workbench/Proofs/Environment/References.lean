import Mathlib.Tactic.Lemma
import Mathlib.Data.List.Infix
import Mathlib.Data.List.TakeWhile
import Workbench.Environment

set_option relaxedAutoImplicit false
set_option autoImplicit false

/-!
# The references of a text

Which names a text refers to is seen from the text alone; the environment only says what stands for
them. So a text is left alone where none of its names has a value, and two environments that agree on
its names make the same of it. What stands in front of a reference, and what follows it, is replaced on
its own.

## Main definitions

* `Workbench.Environment.references` — the names that a text refers to.
* `Workbench.Environment.without` — an environment without the entries of a name.
* `Workbench.Environment.Finds` — the names that find the entries of another one.

## Main results

* `Workbench.Environment.replaceReferences_reference` — what is inserted for a name, and what follows the
  reference.
* `Workbench.Environment.replaceReferences_congr`, `Workbench.Environment.substitute_congr` — only what is
  inserted for its names matters to a text.
* `Workbench.Environment.substitute_of_unset` — a text is left alone if none of its names has a value.
* `Workbench.Environment.get?_without` — names that do not lose their value with the entries of another.
-/

namespace Workbench.Environment

/-- The names that a text refers to, from left to right. -/
def references : List Char → List (List Char)
  | [] => []
  | '$' :: '\x7b' :: rest =>
    match h : rest.dropWhile staysOpen with
    | [] => []
    | _ :: after =>
      if rest.takeWhile staysOpen = [] then references rest
      else
        have : after.length < rest.length := by
          have := (List.dropWhile_suffix staysOpen (l := rest)).length_le
          rw [h] at this
          simp at this
          omega
        rest.takeWhile staysOpen :: references after
  | _ :: rest => references rest
termination_by cs => cs.length
decreasing_by all_goals (simp only [List.length_cons]; omega)

/-! ### Steps of the replacement -/

section Steps

variable (insert : List Char → List Char)

/-- A character that begins no reference stays. -/
lemma replaceReferences_cons_of_not {c : Char} {rest : List Char}
    (h : ∀ more, c = '$' → rest ≠ '\x7b' :: more) :
    replaceReferences insert (c :: rest) = c :: replaceReferences insert rest := by
  rw [replaceReferences]
  exact fun more hc hrest => h more hc hrest

/-- What stands in front of the first dollar sign stays. -/
lemma replaceReferences_append_of_notMem {front : List Char} (h : '$' ∉ front) (rest : List Char) :
    replaceReferences insert (front ++ rest) = front ++ replaceReferences insert rest := by
  induction front with
  | nil => rfl
  | cons c front ih =>
    obtain ⟨hc, hfront⟩ := not_or.1 (mt List.mem_cons.2 h)
    rw [List.cons_append, replaceReferences_cons_of_not insert fun _ he => absurd he.symm hc, ih hfront,
      List.cons_append]

/-- A brace that nothing closes begins no reference. -/
lemma replaceReferences_of_unclosed {rest : List Char} (h : rest.dropWhile staysOpen = []) :
    replaceReferences insert ('$' :: '\x7b' :: rest) = '$' :: '\x7b' :: rest := by
  rw [replaceReferences]
  split
  · rfl
  · next c after hafter => simp [h] at hafter

/-- A reference has a name. -/
lemma replaceReferences_of_nameless {rest : List Char} (h : rest.takeWhile staysOpen = [])
    (hclosed : rest.dropWhile staysOpen ≠ []) :
    replaceReferences insert ('$' :: '\x7b' :: rest) =
      '$' :: '\x7b' :: replaceReferences insert rest := by
  rw [replaceReferences]
  split
  · next hnil => exact absurd hnil hclosed
  · rw [if_pos h]

/-- A name ends at the brace that closes it. -/
lemma cut_of_notMem {name : List Char} (h : '\x7d' ∉ name) (rest : List Char) :
    (name ++ '\x7d' :: rest).takeWhile staysOpen = name ∧
      (name ++ '\x7d' :: rest).dropWhile staysOpen = '\x7d' :: rest := by
  have hname : ∀ c ∈ name, staysOpen c = true := by
    intro c hc
    rw [staysOpen, bne_iff_ne]
    rintro rfl
    exact h hc
  have hclose : ¬ staysOpen '\x7d' = true := by decide
  constructor
  · rw [List.takeWhile_append_of_pos hname, List.takeWhile_cons_of_neg hclose, List.append_nil]
  · rw [List.dropWhile_append_of_pos hname, List.dropWhile_cons_of_neg hclose]

/-- **What is inserted for a name, and what follows the reference.** What was put in is not looked at
again. -/
lemma replaceReferences_reference {name : List Char} (hne : name ≠ []) (h : '\x7d' ∉ name)
    (rest : List Char) :
    replaceReferences insert (reference name ++ rest) =
      insert name ++ replaceReferences insert rest := by
  obtain ⟨htake, hdrop⟩ := cut_of_notMem h rest
  have hshape : reference name ++ rest = '$' :: '\x7b' :: (name ++ '\x7d' :: rest) := by
    simp [reference]
  rw [hshape, replaceReferences]
  split
  · next hnil => simp [hdrop] at hnil
  · next c after hafter =>
    obtain ⟨-, rfl⟩ := List.cons.inj (hdrop.symm.trans hafter)
    rw [htake, if_neg hne]

end Steps

section Substitution

variable (environment : Environment)

/-- What stands in front of the first dollar sign stays. -/
lemma substitute_append_of_notMem {front : List Char} (h : '$' ∉ front) (rest : List Char) :
    environment.substitute (front ++ rest) = front ++ environment.substitute rest :=
  replaceReferences_append_of_notMem environment.insertion h rest

/-- The value of a name, and what follows the reference. -/
lemma substitute_reference {name : List Char} (hne : name ≠ []) (h : '\x7d' ∉ name)
    (rest : List Char) :
    environment.substitute (reference name ++ rest) =
      environment.insertion name ++ environment.substitute rest :=
  replaceReferences_reference environment.insertion hne h rest

end Substitution

/-! ### Names -/

/-- What follows a dollar sign and a brace is a reference if it is closed. -/
lemma eq_reference_append {rest after : List Char} {c : Char}
    (h : rest.dropWhile staysOpen = c :: after) :
    '\x7d' ∉ rest.takeWhile staysOpen ∧
      '$' :: '\x7b' :: rest = reference (rest.takeWhile staysOpen) ++ after := by
  have hclose : c = '\x7d' := by
    have hhead := List.head?_dropWhile_not staysOpen rest
    rw [h] at hhead
    simpa [staysOpen] using hhead
  have hcut := rest.takeWhile_append_dropWhile (p := staysOpen)
  rw [h, hclose] at hcut
  constructor
  · intro hm
    have hopen := List.mem_takeWhile_imp hm
    simp [staysOpen] at hopen
  · conv_lhs => rw [← hcut]
    simp [reference]

/-- **Only what is inserted for its names matters to a text.**

**Proof sketch.** Induction along the names. What is no reference stays with both, and a reference is
replaced by the same text with both. -/
theorem replaceReferences_congr {insert other : List Char → List Char} {cs : List Char}
    (h : ∀ name ∈ references cs, insert name = other name) :
    replaceReferences insert cs = replaceReferences other cs := by
  fun_induction references cs with
  | case1 => simp [replaceReferences]
  | case2 rest hnone =>
    rw [replaceReferences_of_unclosed _ hnone, replaceReferences_of_unclosed _ hnone]
  | case3 rest c after hdrop hnameless ih =>
    have hclosed : rest.dropWhile staysOpen ≠ [] := by simp [hdrop]
    rw [replaceReferences_of_nameless _ hnameless hclosed,
      replaceReferences_of_nameless _ hnameless hclosed, ih h]
  | case4 rest c after hdrop hne _ ih =>
    obtain ⟨hclosed, hshape⟩ := eq_reference_append hdrop
    obtain ⟨hname, hothers⟩ := List.forall_mem_cons.1 h
    rw [hshape, replaceReferences_reference _ hne hclosed, replaceReferences_reference _ hne hclosed,
      ih hothers, hname]
  | case5 c rest hnot ih =>
    have hplain : ∀ more, c = '$' → rest ≠ '\x7b' :: more := fun more hc hrest => hnot more hc hrest
    rw [replaceReferences_cons_of_not _ hplain, replaceReferences_cons_of_not _ hplain, ih h]

/-- A text in which every reference is replaced by itself is left alone. -/
lemma replaceReferences_self (cs : List Char) : replaceReferences reference cs = cs := by
  fun_induction references cs with
  | case1 => simp [replaceReferences]
  | case2 rest hnone => rw [replaceReferences_of_unclosed _ hnone]
  | case3 rest c after hdrop hnameless ih =>
    rw [replaceReferences_of_nameless _ hnameless (by simp [hdrop]), ih]
  | case4 rest c after hdrop hne _ ih =>
    obtain ⟨hclosed, hshape⟩ := eq_reference_append hdrop
    rw [hshape, replaceReferences_reference _ hne hclosed, ih]
  | case5 c rest hnot ih =>
    rw [replaceReferences_cons_of_not _ fun more hc hrest => hnot more hc hrest, ih]

/-- **Only the values of its names matter to a text.** -/
theorem substitute_congr {environment other : Environment} {cs : List Char}
    (h : ∀ name ∈ references cs,
      environment.get? (String.ofList name) = other.get? (String.ofList name)) :
    environment.substitute cs = other.substitute cs :=
  replaceReferences_congr fun name hm => by rw [insertion, insertion, h name hm]

/-- **A text is left alone if none of its names has a value.** -/
theorem substitute_of_unset {environment : Environment} {cs : List Char}
    (h : ∀ name ∈ references cs, environment.get? (String.ofList name) = none) :
    environment.substitute cs = cs := by
  have hsame : environment.substitute cs = replaceReferences reference cs :=
    replaceReferences_congr fun name hm => by rw [insertion, h name hm]
  exact hsame.trans (replaceReferences_self cs)

/-! ### Entries of a name -/

section Front

variable {α : Type} [BEq α] [LawfulBEq α] {front cs : List α}

/-- What follows a text that was put in front. -/
lemma after?_append (front back : List α) : after? front (front ++ back) = some back := by
  rw [after?, if_pos (List.isPrefixOf_iff_prefix.2 (List.prefix_append front back)), List.drop_left]

/-- Nothing follows a text that does not stand in front. -/
lemma after?_eq_none_iff : after? front cs = none ↔ ¬ front <+: cs := by
  rw [after?, ← List.isPrefixOf_iff_prefix]
  simp

end Front

/-- The environment without the entries of a name. -/
def without (environment : Environment) (name : String) : Environment :=
  { entries := environment.entries.filter fun entry =>
      !(name.toList ++ ['=']).isPrefixOf entry.toList }

/-- A name that finds the entries of another one: that name itself, or one that goes on with an equals
sign and the start of its value. -/
def Finds (name : List Char) (other : String) : Prop := other.toList ++ ['='] <+: name ++ ['=']

/-- An entry of two names, of which one finds the entries of the other. -/
lemma finds_of_starts {name : List Char} {other : String} {entry : List Char}
    (hother : '=' ∉ other.toList) (hle : name ++ ['='] <+: entry)
    (hle' : other.toList ++ ['='] <+: entry) : Finds name other := by
  rcases List.prefix_or_prefix_of_prefix hle' hle with h | h
  · exact h
  rcases List.prefix_concat_iff.1 h with heq | hfront
  · exact ⟨[], by simp [heq]⟩
  · exact absurd (hfront.subset (by simp)) hother

/-- **A name keeps its value without the entries of another one** that it does not find. -/
theorem get?_without {environment : Environment} {name other : String} (hother : '=' ∉ other.toList)
    (h : ¬ Finds name.toList other) :
    (environment.without other).get? name = environment.get? name := by
  have hlost : ∀ entry : String, (other.toList ++ ['=']).isPrefixOf entry.toList = true →
      after? (name.toList ++ ['=']) entry.toList = none := by
    intro entry hentry
    rw [List.isPrefixOf_iff_prefix] at hentry
    exact after?_eq_none_iff.2 fun hname => h (finds_of_starts hother hname hentry)
  obtain ⟨entries⟩ := environment
  change List.findSome? _ (List.filter _ entries) = List.findSome? _ entries
  induction entries with
  | nil => rfl
  | cons entry entries ih =>
    by_cases hentry : (other.toList ++ ['=']).isPrefixOf entry.toList = true
    · rw [List.filter_cons_of_neg (by simp [hentry]), List.findSome?_cons, hlost entry hentry, ih]
      rfl
    · rw [List.filter_cons_of_pos (by simp [hentry]), List.findSome?_cons, List.findSome?_cons, ih]

end Workbench.Environment
