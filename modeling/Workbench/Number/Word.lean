set_option autoImplicit false

/-!
# Words that do not wrap around

Sums and products of words of 64 bits that stop the program where the result is no word.

## Main definitions

* `Workbench.Overflow` — what has overflowed.
* `Workbench.Word.add`, `Workbench.Word.multiply` — sum and product.

## Main results

* `Workbench.Word.add_eq_ok_iff`, `Workbench.Word.multiply_eq_ok_iff` — a result is the exact one.
* `Workbench.Word.add_eq_error_iff`, `Workbench.Word.multiply_eq_error_iff` — when there is none.
-/

namespace Workbench

/-- An operation whose result is no word. -/
inductive Overflow where
  | add | multiply
  deriving DecidableEq, Repr

/-- What is said when it stops the program. -/
def Overflow.message : Overflow → String
  | add => "attempt to add with overflow"
  | multiply => "attempt to multiply with overflow"

namespace Word

/-- The sum of two words. -/
def add (a b : UInt64) : Except Overflow UInt64 :=
  if a.toNat + b.toNat < UInt64.size then .ok (a + b) else .error .add

/-- The product of two words. -/
def multiply (a b : UInt64) : Except Overflow UInt64 :=
  if a.toNat * b.toNat < UInt64.size then .ok (a * b) else .error .multiply

variable {a b word : UInt64} {overflow : Overflow}

/-- A sum is the exact one. -/
theorem add_eq_ok_iff : add a b = .ok word ↔ word.toNat = a.toNat + b.toNat := by
  have hword : word.toNat < UInt64.size := word.toNat_lt
  unfold add
  by_cases hfits : a.toNat + b.toNat < UInt64.size
  · have hsum : (a + b).toNat = a.toNat + b.toNat := by
      rw [UInt64.toNat_add]
      exact Nat.mod_eq_of_lt hfits
    rw [if_pos hfits, Except.ok.injEq, ← UInt64.toNat_inj, hsum, eq_comm]
  · rw [if_neg hfits]
    simp only [reduceCtorEq, false_iff]
    omega

/-- A product is the exact one. -/
theorem multiply_eq_ok_iff : multiply a b = .ok word ↔ word.toNat = a.toNat * b.toNat := by
  have hword : word.toNat < UInt64.size := word.toNat_lt
  unfold multiply
  by_cases hfits : a.toNat * b.toNat < UInt64.size
  · have hproduct : (a * b).toNat = a.toNat * b.toNat := by
      rw [UInt64.toNat_mul]
      exact Nat.mod_eq_of_lt hfits
    rw [if_pos hfits, Except.ok.injEq, ← UInt64.toNat_inj, hproduct, eq_comm]
  · rw [if_neg hfits]
    simp only [reduceCtorEq, false_iff]
    omega

/-- There is no sum if the exact one is no word. -/
theorem add_eq_error_iff :
    add a b = .error overflow ↔ UInt64.size ≤ a.toNat + b.toNat ∧ overflow = .add := by
  unfold add
  by_cases hfits : a.toNat + b.toNat < UInt64.size
  · rw [if_pos hfits]
    simp only [reduceCtorEq, false_iff, not_and]
    omega
  · rw [if_neg hfits, Except.error.injEq, eq_comm, iff_and_self]
    omega

/-- There is no product if the exact one is no word. -/
theorem multiply_eq_error_iff :
    multiply a b = .error overflow ↔ UInt64.size ≤ a.toNat * b.toNat ∧ overflow = .multiply := by
  unfold multiply
  by_cases hfits : a.toNat * b.toNat < UInt64.size
  · rw [if_pos hfits]
    simp only [reduceCtorEq, false_iff, not_and]
    omega
  · rw [if_neg hfits, Except.error.injEq, eq_comm, iff_and_self]
    omega

end Word

end Workbench
