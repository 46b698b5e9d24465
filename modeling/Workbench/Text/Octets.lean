set_option autoImplicit false

/-!
# Octets

Measuring and cutting texts by the octets of their UTF-8 form.

## Main definitions

* `Workbench.Text.octetCount` — how many octets a text takes.
* `Workbench.Text.takeOctets`, `Workbench.Text.dropOctets` — the two parts of a text at a place that is
  counted in octets. A place inside a character is moved to its end.
* `Workbench.Text.cutAt?` — the same two parts, unless the place lies inside a character.

## Main results

* `Workbench.Text.octetCount_append` — texts one after the other add up.
* `Workbench.Text.takeOctets_append_dropOctets` — the two parts are the whole text.
* `Workbench.Text.takeOctets_octetCount`, `Workbench.Text.dropOctets_octetCount` — cutting behind a text
  that stands in front gives it back, and the rest.
* `Workbench.Text.cutAt?_eq_some_iff` — the places that a text can be cut at.
-/

namespace Workbench.Text

/-- The number of octets of a text. -/
def octetCount : List Char → Nat
  | [] => 0
  | c :: cs => c.utf8Size + octetCount cs

/-- The first octets of a text, up to the end of a character. -/
def takeOctets : Nat → List Char → List Char
  | _, [] => []
  | n, c :: cs => if n = 0 then [] else c :: takeOctets (n - c.utf8Size) cs

/-- What follows the first octets of a text. -/
def dropOctets : Nat → List Char → List Char
  | _, [] => []
  | n, c :: cs => if n = 0 then c :: cs else dropOctets (n - c.utf8Size) cs

/-- Texts one after the other add up. -/
theorem octetCount_append (a b : List Char) : octetCount (a ++ b) = octetCount a + octetCount b := by
  induction a with
  | nil => simp [octetCount]
  | cons c a ih => simp [octetCount, ih, Nat.add_assoc]

/-- The two parts at a place are the whole text. -/
theorem takeOctets_append_dropOctets (n : Nat) (cs : List Char) :
    takeOctets n cs ++ dropOctets n cs = cs := by
  induction cs generalizing n with
  | nil => rfl
  | cons c cs ih => by_cases h : n = 0 <;> simp [takeOctets, dropOctets, h, ih]

/-- Cutting behind a text that stands in front gives it back. -/
theorem takeOctets_octetCount (a b : List Char) : takeOctets (octetCount a) (a ++ b) = a := by
  induction a with
  | nil => cases b <;> simp [octetCount, takeOctets]
  | cons c a ih =>
    have h : c.utf8Size + octetCount a ≠ 0 := by have := c.utf8Size_pos; omega
    simp only [octetCount, takeOctets, List.cons_append, if_neg h, Nat.add_sub_cancel_left, ih]

/-- Cutting behind a text that stands in front gives the rest. -/
theorem dropOctets_octetCount (a b : List Char) : dropOctets (octetCount a) (a ++ b) = b := by
  have h := takeOctets_append_dropOctets (octetCount a) (a ++ b)
  rw [takeOctets_octetCount] at h
  exact List.append_cancel_left h

/-- The two parts of a text at a place that is counted in octets. There are none if the place lies behind
the end of the text or inside a character. -/
def cutAt? (place : Nat) (cs : List Char) : Option (List Char × List Char) :=
  if octetCount (takeOctets place cs) = place then some (takeOctets place cs, dropOctets place cs)
  else none

/-- **The places that a text can be cut at** are the numbers of octets that stand in front of a rest. -/
theorem cutAt?_eq_some_iff {place : Nat} {cs front rest : List Char} :
    cutAt? place cs = some (front, rest) ↔ cs = front ++ rest ∧ octetCount front = place := by
  unfold cutAt?
  constructor
  · intro h
    split at h
    · next hplace =>
      obtain ⟨rfl, rfl⟩ := Prod.mk.inj (Option.some.inj h)
      exact ⟨(takeOctets_append_dropOctets place cs).symm, hplace⟩
    · simp at h
  · rintro ⟨rfl, rfl⟩
    rw [takeOctets_octetCount, dropOctets_octetCount, if_pos rfl]

example : cutAt? 1 "é=".toList = none := by decide

end Workbench.Text
