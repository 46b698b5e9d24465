import Mathlib.Data.Nat.Find
import Workbench.Proofs.Font.Packing

set_option relaxedAutoImplicit false
set_option autoImplicit false

/-!
# Where pixels are looked up

The intensities of a bitmap lie row by row, so that the place of a pixel is its row times the width plus
its column. Packing computes this place in words of 64 bits. In a bitmap that says to be wide enough the
place of a pixel of the cell is no such word, and then the program stops.

Here is for which dimensions that happens and at which pixel, whatever the intensities are, and that in
all other bitmaps the pixels that are meant are looked up.

## Main definitions

* `Workbench.Bitmap.place` — the place of a pixel, counted without bounds.
* `Workbench.Bitmap.IsPackedByPlace` — bitmaps that are packed, with the pixels at their places.
* `Workbench.Bitmap.PlacesFit` — all places of the cell are words.
* `Workbench.Bitmap.StopsAt` — the pixel at which packing stops.
* `Workbench.Bitmap.IsWhole` — bitmaps with an intensity for each pixel.

## Main results

* `Workbench.Bitmap.packChecked_eq_ok_iff` — when a bitmap is packed, and what comes of it.
* `Workbench.Bitmap.packChecked_eq_error_iff` — when packing stops, and how.
* `Workbench.Bitmap.placesFit_iff` — the dimensions for which all places are words.
* `Workbench.isPackedByPlace_iff` — the bitmaps that are packed as they are meant to be.
* `Workbench.not_isPackedByPlace` — a bitmap that is not.
-/

namespace Workbench

/-! ### Loops that may stop -/

section Loops

variable {ε α β : Type} {overflow : ε}

/-- A loop of which no turn stops gives what its turns do. -/
lemma foldlM_eq_ok {turn : β → α → Except ε β} {f : β → α → β} {items : List α}
    (h : ∀ item ∈ items, ∀ b, turn b item = .ok (f b item)) (b : β) :
    items.foldlM turn b = .ok (items.foldl f b) := by
  induction items generalizing b with
  | nil => rfl
  | cons item items ih =>
    obtain ⟨hfirst, hrest⟩ := List.forall_mem_cons.1 h
    rw [List.foldlM_cons, hfirst, List.foldl_cons]
    exact ih hrest _

/-- A loop over numbers stops at the first turn that does. -/
lemma foldlM_range_eq_error {turn : β → Nat → Except ε β} (f : β → Nat → β) {count i : Nat}
    (hi : i < count) (hbefore : ∀ j < i, ∀ b, turn b j = .ok (f b j))
    (hstop : ∀ b, turn b i = .error overflow) (b : β) :
    (List.range count).foldlM turn b = .error overflow := by
  induction count with
  | zero => omega
  | succ count ih =>
    rw [List.range_succ, List.foldlM_append]
    rcases Nat.lt_succ_iff_lt_or_eq.1 hi with hlt | rfl
    · rw [ih hlt]
      rfl
    · rw [foldlM_eq_ok fun j hj => hbefore j (List.mem_range.1 hj)]
      change (turn _ i >>= _) = _
      rw [hstop]
      rfl

/-- Items that are made one after the other stop at the first one that cannot be made.

**Proof sketch.** Induction on the number of items. The last one is made after all others: either one of
them stops already, or it is the last one that does. -/
lemma ofFnM_eq_error {count : Nat} {item : Fin count → Except ε α} (f : Fin count → α)
    {i : Fin count} (hbefore : ∀ j < i, item j = .ok (f j)) (hstop : item i = .error overflow) :
    Vector.ofFnM item = .error overflow := by
  induction count with
  | zero => exact i.elim0
  | succ count ih =>
    rw [Vector.ofFnM_succ]
    induction i using Fin.lastCases with
    | last =>
      have hall : (fun j : Fin count => item j.castSucc) = pure ∘ fun j => f j.castSucc :=
        funext fun j => hbefore _ (Fin.castSucc_lt_last j)
      rw [hall, Vector.ofFnM_pure_comp, hstop]
      rfl
    | cast i =>
      rw [ih _ (fun j hj => hbefore _ (Fin.castSucc_lt_castSucc_iff.2 hj)) hstop]
      rfl

end Loops

namespace Bitmap

section Places

variable (bitmap : Bitmap)

/-- A pixel is inside the bitmap, by the dimensions that it says to have. -/
def Covers (y x : Nat) : Prop := y < bitmap.rows.toNat ∧ x < bitmap.width.toNat

instance (y x : Nat) : Decidable (bitmap.Covers y x) := inferInstanceAs (Decidable (_ ∧ _))

/-- The place of a pixel among the intensities, counted without bounds. -/
def place (y x : Nat) : Nat := y * bitmap.width.toNat + x

/-- There is an intensity at a place, and it is not zero. -/
def IsLitAt (place : Nat) : Prop :=
  ∃ intensity, bitmap.pixels[place]? = some intensity ∧ 0 < intensity

/-- The bitmap is packed, without any overflow, and the bits of its rows are the pixels of the cell that
are inside the bitmap, each of them looked up at its place. -/
def IsPackedByPlace : Prop :=
  ∃ glyph, bitmap.packChecked = .ok glyph ∧ ∀ y, (hy : y < 16) → ∀ x < 8,
    (glyph[y].toNat.testBit (7 - x) = true ↔ bitmap.Covers y x ∧ bitmap.IsLitAt (bitmap.place y x))

/-- The places of all pixels of the cell that are inside the bitmap are words of 64 bits. -/
def PlacesFit : Prop := ∀ y < 16, ∀ x < 8, bitmap.Covers y x → bitmap.place y x < 2 ^ 64

/-- The pixel at which packing stops: the first one of the cell, row by row, that is inside the bitmap
and whose place is no word. -/
structure StopsAt (y x : Nat) : Prop where
  row_lt : y < 16
  column_lt : x < 8
  covers : bitmap.Covers y x
  large : 2 ^ 64 ≤ bitmap.place y x
  rows_before : ∀ y' < y, ∀ x' < 8, bitmap.Covers y' x' → bitmap.place y' x' < 2 ^ 64
  columns_before : ∀ x' < x, bitmap.place y x' < 2 ^ 64

/-- What overflows at a pixel of a row: the product, or else the sum. -/
def overflowIn (y : Nat) : Overflow := if 2 ^ 64 ≤ y * bitmap.width.toNat then .multiply else .add

/-- A bitmap has one intensity for each pixel that it says to have, and they can be counted by words. -/
structure IsWhole : Prop where
  size_eq : bitmap.pixels.size = bitmap.rows.toNat * bitmap.width.toNat
  size_le : bitmap.pixels.size ≤ 2 ^ 64

end Places

variable {bitmap : Bitmap} {y x : Nat}

/-! ### Single pixels -/

/-- The intensity at a place, if there is one, is compared with zero. -/
lemma any_iff_isLitAt {place : Nat} :
    (bitmap.pixels[place]?).any (· > 0) = true ↔ bitmap.IsLitAt place := by
  unfold IsLitAt
  cases bitmap.pixels[place]? <;> simp

/-- The pixels that are lit. -/
lemma isLit_iff :
    bitmap.isLit y x = true ↔ bitmap.Covers y x ∧ bitmap.IsLitAt (bitmap.place y x) := by
  rw [isLit, Bool.and_eq_true, Bool.and_eq_true, decide_eq_true_iff, decide_eq_true_iff,
    any_iff_isLitAt]
  rfl

/-- The rows and columns of the cell are words. -/
lemma toNat_ofNat_of_lt_cell {n : Nat} (h : n < 16) : (UInt64.ofNat n).toNat = n :=
  UInt64.toNat_ofNat_of_lt' (lt_of_lt_of_le h (by decide))

/-- A pixel is inside a bitmap also by words. -/
lemma covers_iff (hy : y < 16) (hx : x < 8) :
    UInt64.ofNat y < bitmap.rows ∧ UInt64.ofNat x < bitmap.width ↔ bitmap.Covers y x := by
  rw [UInt64.lt_iff_toNat_lt, UInt64.lt_iff_toNat_lt, toNat_ofNat_of_lt_cell hy,
    toNat_ofNat_of_lt_cell (by omega), Covers]

/-- The start of a row, if it is a word. -/
lemma multiply_width (hy : y < 16) (h : y * bitmap.width.toNat < 2 ^ 64) :
    Word.multiply (UInt64.ofNat y) bitmap.width = .ok (UInt64.ofNat (y * bitmap.width.toNat)) := by
  rw [Word.multiply_eq_ok_iff, UInt64.toNat_ofNat_of_lt' h, toNat_ofNat_of_lt_cell hy]

/-- A place that is a word is computed. -/
lemma placeChecked_eq_ok (hy : y < 16) (hx : x < 8) (h : bitmap.place y x < 2 ^ 64) :
    bitmap.placeChecked (UInt64.ofNat y) (UInt64.ofNat x) = .ok (UInt64.ofNat (bitmap.place y x)) := by
  have hstart : y * bitmap.width.toNat < 2 ^ 64 := lt_of_le_of_lt (Nat.le_add_right _ x) h
  rw [placeChecked, multiply_width hy hstart]
  refine Word.add_eq_ok_iff.2 ?_
  rw [UInt64.toNat_ofNat_of_lt' h, UInt64.toNat_ofNat_of_lt' hstart,
    toNat_ofNat_of_lt_cell (by omega), place]

/-- At a place that is no word the product or the sum overflows. -/
lemma placeChecked_eq_error (hy : y < 16) (hx : x < 8) (h : 2 ^ 64 ≤ bitmap.place y x) :
    bitmap.placeChecked (UInt64.ofNat y) (UInt64.ofNat x) = .error (bitmap.overflowIn y) := by
  rw [placeChecked, overflowIn]
  by_cases hstart : 2 ^ 64 ≤ y * bitmap.width.toNat
  · rw [if_pos hstart, Word.multiply_eq_error_iff.2 ⟨by rwa [toNat_ofNat_of_lt_cell hy], rfl⟩]
    rfl
  · have hword : y * bitmap.width.toNat < 2 ^ 64 := Nat.lt_of_not_le hstart
    rw [if_neg hstart, multiply_width hy hword]
    refine Word.add_eq_error_iff.2 ⟨?_, rfl⟩
    rw [UInt64.toNat_ofNat_of_lt' hword, toNat_ofNat_of_lt_cell (by omega)]
    exact h

/-- A pixel is looked up at its place if it is inside and the place is a word. -/
lemma isLitChecked_eq_ok (hy : y < 16) (hx : x < 8)
    (h : bitmap.Covers y x → bitmap.place y x < 2 ^ 64) :
    bitmap.isLitChecked y x = .ok (bitmap.isLit y x) := by
  rw [isLitChecked]
  by_cases hcovers : bitmap.Covers y x
  · rw [if_pos ((covers_iff hy hx).2 hcovers), placeChecked_eq_ok hy hx (h hcovers)]
    refine congrArg Except.ok (Bool.eq_iff_iff.2 ?_)
    rw [UInt64.toNat_ofNat_of_lt' (h hcovers), any_iff_isLitAt, isLit_iff, and_iff_right hcovers]
  · rw [if_neg fun hinside => hcovers ((covers_iff hy hx).1 hinside)]
    exact congrArg Except.ok (Bool.eq_false_iff.2 fun hlit => hcovers (isLit_iff.1 hlit).1).symm

/-- A pixel cannot be looked up if it is inside and its place is no word. -/
lemma isLitChecked_eq_error (hy : y < 16) (hx : x < 8) (hcovers : bitmap.Covers y x)
    (h : 2 ^ 64 ≤ bitmap.place y x) : bitmap.isLitChecked y x = .error (bitmap.overflowIn y) := by
  rw [isLitChecked, if_pos ((covers_iff hy hx).2 hcovers), placeChecked_eq_error hy hx h]
  rfl

/-! ### Rows and glyphs -/

/-- A turn of the loop over the columns of a row. -/
lemma turn_eq_ok (hy : y < 16) (hx : x < 8) (h : bitmap.Covers y x → bitmap.place y x < 2 ^ 64)
    (octet : UInt8) :
    (return mark octet x (← bitmap.isLitChecked y x) : Except Overflow UInt8) =
      .ok (mark octet x (bitmap.isLit y x)) := by
  rw [isLitChecked_eq_ok hy hx h]
  rfl

/-- A row whose places are words is packed. -/
lemma packRowChecked_eq_ok (hy : y < 16)
    (h : ∀ x < 8, bitmap.Covers y x → bitmap.place y x < 2 ^ 64) :
    bitmap.packRowChecked y = .ok (bitmap.packRow y) :=
  foldlM_eq_ok (fun x hx octet =>
    turn_eq_ok hy (List.mem_range.1 hx) (h x (List.mem_range.1 hx)) octet) 0

namespace StopsAt

variable (h : bitmap.StopsAt y x)

include h

/-- The row of the pixel at which packing stops is not packed. -/
lemma packRowChecked_eq : bitmap.packRowChecked y = .error (bitmap.overflowIn y) := by
  refine foldlM_range_eq_error (fun octet x => mark octet x (bitmap.isLit y x)) h.column_lt
    (fun x' hx' octet => ?_) (fun octet => ?_) 0
  · exact turn_eq_ok h.row_lt (hx'.trans h.column_lt) (fun _ => h.columns_before x' hx') octet
  · rw [isLitChecked_eq_error h.row_lt h.column_lt h.covers h.large]
    rfl

/-- Packing stops with what overflows at its pixel. -/
lemma packChecked_eq : bitmap.packChecked = .error (bitmap.overflowIn y) :=
  ofFnM_eq_error (fun y => bitmap.packRow y) (i := ⟨y, h.row_lt⟩)
    (fun y' hy' => packRowChecked_eq_ok y'.isLt (h.rows_before y' hy')) h.packRowChecked_eq

end StopsAt

/-- A bitmap whose places are words is packed. -/
lemma PlacesFit.packChecked_eq (h : bitmap.PlacesFit) : bitmap.packChecked = .ok bitmap.pack := by
  have hrows : (fun y : Fin 16 => bitmap.packRowChecked y) = fun y => .ok (bitmap.packRow y) :=
    funext fun y => packRowChecked_eq_ok y.isLt (h y y.isLt)
  rw [packChecked, hrows]
  exact Vector.ofFnM_pure_comp

/-- Where a place is no word there is a first one.

**Proof sketch.** The least row in which there is one, and in it the least column. -/
lemma exists_stopsAt (h : ¬ bitmap.PlacesFit) : ∃ y x, bitmap.StopsAt y x := by
  classical
  have hrow : ∃ y, y < 16 ∧ ∃ x < 8, bitmap.Covers y x ∧ 2 ^ 64 ≤ bitmap.place y x := by
    unfold PlacesFit at h
    push Not at h
    exact h
  obtain ⟨hy, hcolumn⟩ := Nat.find_spec hrow
  obtain ⟨hx, hcovers, hlarge⟩ := Nat.find_spec hcolumn
  refine ⟨Nat.find hrow, Nat.find hcolumn, hy, hx, hcovers, hlarge, fun y' hy' x' hx' hc => ?_,
    fun x' hx' => ?_⟩
  · by_contra hout
    exact Nat.find_min hrow hy' ⟨hy'.trans hy, x', hx', hc, Nat.le_of_not_lt hout⟩
  · by_contra hout
    exact Nat.find_min hcolumn hx'
      ⟨hx'.trans hx, ⟨hcovers.1, hx'.trans hcovers.2⟩, Nat.le_of_not_lt hout⟩

/-- **When a bitmap is packed**: if all places are words. -/
theorem packChecked_eq_ok_iff {glyph : Glyph} :
    bitmap.packChecked = .ok glyph ↔ bitmap.PlacesFit ∧ glyph = bitmap.pack := by
  by_cases hfit : bitmap.PlacesFit
  · rw [hfit.packChecked_eq, Except.ok.injEq, and_iff_right hfit, eq_comm]
  · obtain ⟨y, x, hstops⟩ := exists_stopsAt hfit
    simp [hstops.packChecked_eq, hfit]

/-- **When packing stops**: if there is a pixel at which it does. -/
theorem packChecked_eq_error_iff {overflow : Overflow} :
    bitmap.packChecked = .error overflow ↔
      ∃ y x, bitmap.StopsAt y x ∧ overflow = bitmap.overflowIn y := by
  constructor
  · intro h
    by_cases hfit : bitmap.PlacesFit
    · simp [hfit.packChecked_eq] at h
    · obtain ⟨y, x, hstops⟩ := exists_stopsAt hfit
      exact ⟨y, x, hstops, Except.error.inj (h.symm.trans hstops.packChecked_eq)⟩
  · rintro ⟨y, x, hstops, rfl⟩
    exact hstops.packChecked_eq

/-- The bits of packed rows. -/
lemma testBit_pack_iff (hy : y < 16) (hx : x < 8) :
    bitmap.pack[y].toNat.testBit (7 - x) = true ↔
      bitmap.Covers y x ∧ bitmap.IsLitAt (bitmap.place y x) := by
  rw [getElem_pack bitmap hy, testBit_packRow bitmap y hx, isLit_iff]

/-- Where all places are words the pixels that are meant are looked up. -/
lemma PlacesFit.isPackedByPlace (h : bitmap.PlacesFit) : bitmap.IsPackedByPlace :=
  ⟨bitmap.pack, h.packChecked_eq, fun _ hy _ hx => testBit_pack_iff hy hx⟩

/-! ### Dimensions -/

/-- **The dimensions for which all places are words**: the last pixel of the cell that is inside the
bitmap, if there is one, has the greatest place. -/
theorem placesFit_iff :
    bitmap.PlacesFit ↔ bitmap.rows = 0 ∨ bitmap.width = 0 ∨
      (min bitmap.rows.toNat 16 - 1) * bitmap.width.toNat + (min bitmap.width.toNat 8 - 1) < 2 ^ 64 := by
  have hzero : ∀ {word : UInt64}, word = 0 ↔ word.toNat = 0 := fun {word} => by
    rw [← UInt64.toNat_inj, UInt64.toNat_zero]
  rw [hzero, hzero]
  unfold PlacesFit Covers place
  constructor
  · intro h
    by_cases hrows : bitmap.rows.toNat = 0
    · exact .inl hrows
    by_cases hwidth : bitmap.width.toNat = 0
    · exact .inr (.inl hwidth)
    · exact .inr (.inr (h _ (by omega) _ (by omega) ⟨by omega, by omega⟩))
  · rintro (hrows | hwidth | hlast) y hy x hx ⟨hr, hw⟩
    · omega
    · omega
    · have hmul : y * bitmap.width.toNat ≤ (min bitmap.rows.toNat 16 - 1) * bitmap.width.toNat :=
        Nat.mul_le_mul_right _ (by omega)
      omega

namespace IsWhole

variable (h : bitmap.IsWhole)

include h

/-- A pixel that a whole bitmap covers has an intensity at its place. -/
lemma place_lt (hcovers : bitmap.Covers y x) : bitmap.place y x < bitmap.pixels.size := by
  obtain ⟨hy, hx⟩ := hcovers
  calc
    bitmap.place y x < y * bitmap.width.toNat + bitmap.width.toNat := Nat.add_lt_add_left hx _
    _ = (y + 1) * bitmap.width.toNat := (Nat.succ_mul _ _).symm
    _ ≤ bitmap.rows.toNat * bitmap.width.toNat := Nat.mul_le_mul_right _ hy
    _ = bitmap.pixels.size := h.size_eq.symm

/-- The places of a whole bitmap are words. -/
lemma placesFit : bitmap.PlacesFit :=
  fun _ _ _ _ hcovers => lt_of_lt_of_le (h.place_lt hcovers) h.size_le

end IsWhole

end Bitmap

/-- **When bitmaps are packed by the places of their pixels.** A bitmap, with whatever intensities, is
packed without any overflow and with the bits of the pixels at their places exactly if all places are
words, that is, if the place of the last pixel of the cell inside the bitmap is one. If it is not, packing
stops at the first pixel, row by row, whose place is no word, with an overflow of the product if the start
of its row is no word, and of the sum if it is.

**Proof sketch.** Every turn of the two loops looks its pixel up if the place is a word, and stops if it
is not (`Bitmap.isLitChecked_eq_ok`, `Bitmap.isLitChecked_eq_error`). So the loops stop at the first such
pixel (`Bitmap.StopsAt.packChecked_eq`), and without one they give all bits
(`Bitmap.PlacesFit.isPackedByPlace`). -/
theorem isPackedByPlace_iff (bitmap : Bitmap) :
    (bitmap.IsPackedByPlace ↔ bitmap.PlacesFit) ∧
    (bitmap.PlacesFit ↔ bitmap.rows = 0 ∨ bitmap.width = 0 ∨
      (min bitmap.rows.toNat 16 - 1) * bitmap.width.toNat + (min bitmap.width.toNat 8 - 1) <
        2 ^ 64) ∧
    (∀ overflow, bitmap.packChecked = .error overflow ↔ ∃ y x, bitmap.StopsAt y x ∧
      overflow = if 2 ^ 64 ≤ y * bitmap.width.toNat then .multiply else .add) := by
  refine ⟨⟨?_, Bitmap.PlacesFit.isPackedByPlace⟩, Bitmap.placesFit_iff,
    fun overflow => Bitmap.packChecked_eq_error_iff⟩
  rintro ⟨glyph, hpacked, -⟩
  exact (Bitmap.packChecked_eq_ok_iff.1 hpacked).1

/-- Two rows of the greatest width for which all places are words, with any intensities. In rows that are
wider by one column, the sum overflows at the eighth pixel of the second row. -/
theorem isPackedByPlace_iff_wide :
    (∀ pixels, Bitmap.IsPackedByPlace { rows := 2, width := 0xFFFFFFFFFFFFFFF8, pixels }) ∧
      ∀ pixels, Bitmap.packChecked { rows := 2, width := 0xFFFFFFFFFFFFFFF9, pixels } =
        .error .add := by
  constructor
  · intro pixels
    obtain ⟨hpacked, hfit, -⟩ :=
      isPackedByPlace_iff { rows := 2, width := 0xFFFFFFFFFFFFFFF8, pixels }
    exact hpacked.2 (hfit.2 (.inr (.inr (by dsimp only; decide))))
  · intro pixels
    obtain ⟨-, -, hstops⟩ := isPackedByPlace_iff { rows := 2, width := 0xFFFFFFFFFFFFFFF9, pixels }
    have hproduct : ¬ 2 ^ 64 ≤ 1 * (0xFFFFFFFFFFFFFFF9 : UInt64).toNat := by decide
    -- no intensity has an influence on it
    have hdark : Bitmap.StopsAt { rows := 2, width := 0xFFFFFFFFFFFFFFF9, pixels := #[] } 1 7 :=
      ⟨by decide, by decide, by decide, by decide, by decide, by decide⟩
    obtain ⟨hy, hx, hcovers, hlarge, hrows, hcolumns⟩ := hdark
    exact (hstops .add).2
      ⟨1, 7, ⟨hy, hx, hcovers, hlarge, hrows, hcolumns⟩, (if_neg hproduct).symm⟩

/-- The third of three rows starts behind all words, so that packing stops there: the product overflows. -/
theorem not_isPackedByPlace :
    let bitmap : Bitmap := { rows := 3, width := 0x8000000000000000, pixels := #[0xFF] }
    bitmap.place 2 0 = 2 ^ 64 ∧ bitmap.packChecked = .error .multiply ∧ ¬ bitmap.IsPackedByPlace := by
  intro bitmap
  have hstops : bitmap.StopsAt 2 0 :=
    ⟨by decide, by decide, by decide, by decide, by decide, by decide⟩
  have hoverflow : bitmap.packChecked = .error .multiply := hstops.packChecked_eq
  refine ⟨by decide, hoverflow, ?_⟩
  rintro ⟨glyph, hpacked, -⟩
  simp [hoverflow] at hpacked

end Workbench
