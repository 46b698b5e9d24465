import Mathlib.Data.Nat.Bitwise
import Mathlib.Tactic.Lemma
import Workbench.Font.Bitmap

set_option relaxedAutoImplicit false
set_option autoImplicit false

/-!
# Packed rows, bit by bit

A row of a glyph is packed by setting one bit for each lit column. Here is which bits are set, so that
statements about glyphs are statements about single pixels.

## Main definitions

* `Workbench.keepTop` — an octet with its highest bits only.

## Main results

* `Workbench.octet_ext` — octets with the same bits are the same.
* `Workbench.Glyph.eq_blank_iff` — a glyph is blank exactly if no bit is set.
* `Workbench.Bitmap.testBit_packRow` — the bit of a column is set exactly if its pixel is lit.
* `Workbench.Bitmap.pack_eq_blank_iff` — when a glyph is blank.
-/

namespace Workbench

/-! ### Bits of octets -/

/-- Octets with the same bits are the same. -/
lemma octet_ext {a b : UInt8} (h : ∀ i < 8, a.toNat.testBit i = b.toNat.testBit i) : a = b := by
  refine UInt8.toNat_inj.1 (Nat.eq_of_testBit_eq fun i => ?_)
  by_cases hi : i < 8
  · exact h i hi
  · have hpow : 2 ^ 8 ≤ 2 ^ i := Nat.pow_le_pow_right (by decide) (Nat.le_of_not_lt hi)
    rw [Nat.testBit_lt_two_pow (lt_of_lt_of_le a.toNat_lt hpow),
      Nat.testBit_lt_two_pow (lt_of_lt_of_le b.toNat_lt hpow)]

/-- Octets with the same bit for every column are the same. -/
lemma octet_ext_columns {a b : UInt8}
    (h : ∀ x < 8, a.toNat.testBit (7 - x) = b.toNat.testBit (7 - x)) : a = b := by
  refine octet_ext fun i hi => ?_
  obtain ⟨x, hx, rfl⟩ : ∃ x < 8, 7 - x = i := ⟨7 - i, by omega, by omega⟩
  exact h x hx

/-- A glyph is blank exactly if no bit is set. -/
lemma Glyph.eq_blank_iff {glyph : Glyph} :
    glyph = Glyph.blank ↔
      ∀ y, (hy : y < 16) → ∀ x < 8, glyph[y].toNat.testBit (7 - x) = false := by
  constructor
  · rintro rfl y hy x hx
    simp [Glyph.blank]
  · intro h
    refine Vector.ext fun y hy => octet_ext_columns fun x hx => ?_
    rw [h y hy x hx]
    simp [Glyph.blank]

/-- An octet with its `count` highest bits, all others off. -/
def keepTop (count : Nat) (octet : UInt8) : UInt8 :=
  UInt8.ofNat (octet.toNat >>> (8 - count) <<< (8 - count))

/-- The bits that are kept. -/
lemma testBit_keepTop (count : Nat) (octet : UInt8) {i : Nat} (hi : i < 8) :
    (keepTop count octet).toNat.testBit i = (decide (8 - count ≤ i) && octet.toNat.testBit i) := by
  rw [keepTop, UInt8.toNat_ofNat', Nat.testBit_mod_two_pow, Nat.testBit_shiftLeft,
    Nat.testBit_shiftRight]
  by_cases hle : 8 - count ≤ i
  · simp [hi, hle, Nat.add_sub_cancel' hle]
  · simp [hle]

/-- Setting the bit of a column sets this bit and no other. -/
lemma testBit_or_column (octet : UInt8) {x i : Nat} (hx : x < 8) (hi : i < 8) :
    (octet ||| (1 <<< UInt8.ofNat (7 - x))).toNat.testBit i =
      (octet.toNat.testBit i || decide (7 - x = i)) := by
  have hshift : (UInt8.ofNat (7 - x)).toNat % 8 = 7 - x := by
    rw [UInt8.toNat_ofNat']
    omega
  rw [UInt8.toNat_or, Nat.testBit_or, UInt8.toNat_shiftLeft, hshift, UInt8.toNat_one,
    Nat.testBit_mod_two_pow, Nat.one_shiftLeft, Nat.testBit_two_pow]
  simp [hi]

/-! ### Packed rows -/

namespace Bitmap

/-- The loop over some columns sets the bits of the lit ones.

**Proof sketch.** Induction on the columns, for every octet that the loop has reached: the first column
sets its own bit if it is lit, and the loop goes on from there. -/
lemma testBit_foldl_columns (lit : Nat → Bool) {columns : List Nat} (h : ∀ x ∈ columns, x < 8)
    {i : Nat} (hi : i < 8) (octet : UInt8) :
    (columns.foldl (fun octet x => mark octet x (lit x)) octet).toNat.testBit i =
      (octet.toNat.testBit i || columns.any fun x => lit x && decide (7 - x = i)) := by
  induction columns generalizing octet with
  | nil => simp
  | cons x columns ih =>
    rw [List.foldl_cons, ih (fun y hy => h y (by simp [hy])), List.any_cons, mark]
    by_cases hl : lit x = true
    · rw [if_pos hl, testBit_or_column octet (h x (by simp)) hi, hl, Bool.true_and, Bool.or_assoc]
    · rw [if_neg hl, Bool.eq_false_iff.2 hl, Bool.false_and, Bool.false_or]

/-- **The bit of a column is set exactly if its pixel is lit.** -/
theorem testBit_packRow (bitmap : Bitmap) (y : Nat) {x : Nat} (hx : x < 8) :
    (bitmap.packRow y).toNat.testBit (7 - x) = bitmap.isLit y x := by
  have hcolumns : ∀ x ∈ List.range Glyph.cellWidth, x < 8 := fun x hm => List.mem_range.1 hm
  rw [packRow, testBit_foldl_columns (bitmap.isLit y) hcolumns (by omega), UInt8.toNat_zero,
    Nat.zero_testBit, Bool.false_or, Bool.eq_iff_iff, List.any_eq_true]
  constructor
  · rintro ⟨x', hm, hboth⟩
    obtain ⟨hlit, hbit⟩ := Bool.and_eq_true_iff.1 hboth
    have hx' := hcolumns x' hm
    have hsame : 7 - x' = 7 - x := of_decide_eq_true hbit
    obtain rfl : x' = x := by omega
    exact hlit
  · intro hlit
    exact ⟨x, List.mem_range.2 hx, by simp [hlit]⟩

@[simp] lemma getElem_pack (bitmap : Bitmap) {y : Nat} (hy : y < 16) :
    bitmap.pack[y] = bitmap.packRow y := by
  simp [pack]

/-- A glyph is blank exactly if no pixel of the cell is lit. -/
theorem pack_eq_blank_iff {bitmap : Bitmap} :
    bitmap.pack = Glyph.blank ↔ ∀ y < 16, ∀ x < 8, bitmap.isLit y x = false := by
  rw [Glyph.eq_blank_iff]
  refine forall₂_congr fun y hy => forall₂_congr fun x hx => ?_
  rw [getElem_pack bitmap hy, testBit_packRow bitmap y hx]

end Bitmap

end Workbench
