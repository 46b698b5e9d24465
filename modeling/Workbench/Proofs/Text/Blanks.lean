import Mathlib.Data.List.TakeWhile
import Mathlib.Tactic.Lemma
import Workbench.Text.Blank

set_option relaxedAutoImplicit false
set_option autoImplicit false

/-!
# Texts without their outer blanks

Trimming takes blanks off a text at both ends, as many as there are. What is left is the one part of the
text that has nothing but blanks around it and no blank at either of its own ends.

## Main results

* `Workbench.Text.trim_eq_iff` — what is left of a text.
-/

namespace Workbench.Text

/-- A text without blanks at its start has them nowhere in front. -/
lemma dropWhile_isBlank_eq_self {cs : List Char} (h : ∀ c ∈ cs.head?, isBlank c = false) :
    cs.dropWhile isBlank = cs := by
  cases cs with
  | nil => rfl
  | cons c cs => exact List.dropWhile_cons_of_neg (by simp [h c rfl])

/-- Behind the blanks at its start a text goes on with another character. -/
lemma isBlank_of_mem_head?_dropWhile (cs : List Char) :
    ∀ c ∈ (cs.dropWhile isBlank).head?, isBlank c = false := by
  intro c hc
  have hnot := List.head?_dropWhile_not isBlank cs
  rw [Option.mem_def.1 hc] at hnot
  exact hnot

/-- What is left without the blanks at the end, and these blanks, make up a text. -/
lemma exists_trimEnd_append (cs : List Char) :
    ∃ back, cs = trimEnd cs ++ back ∧ ∀ c ∈ back, isBlank c = true := by
  refine ⟨(cs.reverse.takeWhile isBlank).reverse, ?_, fun c hc => ?_⟩
  · rw [trimEnd, ← List.reverse_append, List.takeWhile_append_dropWhile, List.reverse_reverse]
  · exact List.mem_takeWhile_imp (List.mem_reverse.1 hc)

/-- **What is left of a text without its outer blanks**: the part with blanks around it only, that has no
blank at its ends. -/
theorem trim_eq_iff {cs body : List Char} :
    trim cs = body ↔ ∃ front back, cs = front ++ body ++ back ∧
      (∀ c ∈ front, isBlank c = true) ∧ (∀ c ∈ back, isBlank c = true) ∧
      (∀ c ∈ body.head?, isBlank c = false) ∧ ∀ c ∈ body.getLast?, isBlank c = false := by
  constructor
  · rintro rfl
    obtain ⟨back, hback, hblank⟩ := exists_trimEnd_append (cs.dropWhile isBlank)
    refine ⟨cs.takeWhile isBlank, back, ?_, fun c hc => List.mem_takeWhile_imp hc, hblank, ?_, ?_⟩
    · rw [List.append_assoc, trim, ← hback, List.takeWhile_append_dropWhile]
    · intro c hc
      have hfirst : (trimEnd (cs.dropWhile isBlank)).head? = some c := hc
      refine isBlank_of_mem_head?_dropWhile cs c ?_
      rw [hback, List.head?_append, hfirst]
      rfl
    · intro c hc
      rw [trim, trimEnd, List.getLast?_reverse] at hc
      exact isBlank_of_mem_head?_dropWhile _ c hc
  · rintro ⟨front, back, rfl, hfront, hback, hhead, hlast⟩
    cases body with
    | nil =>
      have hall : ∀ c ∈ front ++ back, isBlank c = true := fun c hc =>
        (List.mem_append.1 hc).elim (hfront c) (hback c)
      rw [List.append_nil, trim, List.dropWhile_eq_nil_iff.2 hall]
      rfl
    | cons first rest =>
      have hstart : ∀ c ∈ (first :: rest ++ back).head?, isBlank c = false := hhead
      have hend : ∀ c ∈ (first :: rest).reverse.head?, isBlank c = false := by
        rw [List.head?_reverse]
        exact hlast
      rw [trim, List.append_assoc, List.dropWhile_append_of_pos hfront,
        dropWhile_isBlank_eq_self hstart, trimEnd, List.reverse_append,
        List.dropWhile_append_of_pos fun c hc => hback c (List.mem_reverse.1 hc),
        dropWhile_isBlank_eq_self hend, List.reverse_reverse]

end Workbench.Text
