import Workbench.Proofs.Font.Pictures

set_option relaxedAutoImplicit false
set_option autoImplicit false

/-!
# Buffers of any length

The rows of a picture lie in its buffer at a distance that need not be the length of their pixels, and
the buffer may end in the middle of a row or before it. A loop copies the pixels row by row: it cuts a
row out of the buffer, between two places that are not behind the end of the buffer, and puts the pixels
of the row behind those that it has. It would fail if a place were no word or the places of a row were
not in order. That never happens, and what is copied is a bitmap with an intensity for each pixel.

## Main definitions

* `Workbench.Slot.octetAt?` — the octets of a row, as far as the row and the buffer have them.
* `Workbench.Slot.sampleShifted` — the intensity of a packed bit, by shifts.
* `Workbench.Slot.rowStart`, `Workbench.Slot.rowEnd` — the places between which a row is cut out.
* `Workbench.Slot.slice?`, `Workbench.Slot.copy?` — the loop, which gives nothing if it fails.
* `Workbench.Slot.copyBitmap?` — the bitmap of a picture by this loop.

## Main results

* `Workbench.Slot.sampleShifted_eq` — a shifted bit is full or no intensity.
* `Workbench.Slot.cutRow?_eq` — the row that is cut out.
* `Workbench.Slot.copyBitmap?_eq` — the loop never fails, and gives the bitmap of the picture.
* `Workbench.Slot.bitmap_isCopied` — the number of pixels, each of them, and the places of rows.
-/

namespace Workbench.Slot

/-! ### Octets of a row -/

section Octets

variable (slot : Slot)

/-- The octet at a place of a row, unless the row or the buffer ends before it. -/
def octetAt? (y i : Nat) : Option UInt8 :=
  if i < slot.stride then slot.buffer[y * slot.stride + i]? else none

/-- The octets of a row are those of the buffer at the places of the row. -/
lemma getElem?_row (y i : Nat) : (slot.row y)[i]? = slot.octetAt? y i := by
  rw [row, octetAt?, List.getElem?_take, List.getElem?_drop]

/-- The intensity of an octet is the octet. -/
lemma sampleGray_row (y x : Nat) : sampleGray (slot.row y) x = (slot.octetAt? y x).getD 0 := by
  rw [sampleGray, getElem?_row]

/-- The intensity of a packed bit is full if the octet is there and has the bit. -/
lemma sampleMono_row (y x : Nat) :
    sampleMono (slot.row y) x =
      if (slot.octetAt? y (x / 8)).any fun octet => octet.toNat.testBit (7 - x % 8)
        then 0xFF else 0 := by
  rw [sampleMono, getElem?_row]
  cases slot.octetAt? y (x / 8) <;> simp

end Octets

/-! ### Shifted bits -/

/-- The intensity of a pixel in a row of packed bits: its bit is shifted to the lowest place, all others
are cut off, and the rest is spread over the octet. -/
def sampleShifted (row : List UInt8) (x : Nat) : UInt8 :=
  (row[x / 8]?.elim 0 fun octet => (octet >>> UInt8.ofNat (7 - x % 8)) &&& 1) * 0xFF

/-- A bit that is shifted to the lowest place. -/
lemma shiftRight_and_one (octet : UInt8) {i : Nat} (hi : i < 8) :
    (octet >>> UInt8.ofNat i) &&& 1 = if octet.toNat.testBit i then 1 else 0 := by
  have hshift : (UInt8.ofNat i).toNat % 8 = i := by
    rw [UInt8.toNat_ofNat']
    omega
  rw [← UInt8.toNat_inj, UInt8.toNat_and, UInt8.toNat_shiftRight, hshift, UInt8.toNat_one,
    Nat.and_one_is_mod, Nat.shiftRight_eq_div_pow, ← Nat.toNat_testBit]
  cases octet.toNat.testBit i <;> rfl

/-- **A shifted bit is full or no intensity**, as the bit is on or off. -/
theorem sampleShifted_eq : sampleShifted = sampleMono := by
  funext row x
  rw [sampleShifted, sampleMono]
  cases row[x / 8]? with
  | none => simp
  | some octet =>
    rw [Option.elim_some, shiftRight_and_one octet (show 7 - x % 8 < 8 by omega), Option.getD_some]
    cases octet.toNat.testBit (7 - x % 8) <;> rfl

/-! ### The loop -/

/-- The octets of a buffer between two places, which have to be in order and not behind its end. -/
def slice? (buffer : List UInt8) (first last : Nat) : Option (List UInt8) :=
  if first ≤ last ∧ last ≤ buffer.length then some (buffer.extract first last) else none

section Loop

variable (slot : Slot) (sample : List UInt8 → Nat → UInt8)

/-- The place at which a row starts, but not behind the end of the buffer. -/
def rowStart (y : Nat) : Nat := min (y * slot.stride) slot.buffer.length

/-- The place at which a row ends, but not behind the end of the buffer. -/
def rowEnd (y : Nat) : Nat := min (slot.rowStart y + slot.stride) slot.buffer.length

/-- A row that is cut out of the buffer. The product and the sum that its places come from have to be
words of 64 bits. -/
def cutRow? (y : Nat) : Option (List UInt8) :=
  if y * slot.stride < 2 ^ 64 ∧ slot.rowStart y + slot.stride < 2 ^ 64 then
    slice? slot.buffer (slot.rowStart y) (slot.rowEnd y)
  else none

/-- The pixels of a row are put behind others, one by one. -/
def copyRow? (pixels : Array UInt8) (y : Nat) : Option (Array UInt8) := do
  let row ← slot.cutRow? y
  return (List.range slot.columnCount).foldl (fun pixels x => pixels.push (sample row x)) pixels

/-- The pixels of all rows. Room for them is made beforehand, whose size has to be a word of 63 bits. -/
def copy? : Option (Array UInt8) :=
  if slot.rowCount * slot.columnCount < 2 ^ 63 then
    (List.range slot.rowCount).foldlM (slot.copyRow? sample) #[]
  else none

/-- The bitmap of pixels that are copied. -/
def copyBy? : Option Bitmap := do
  let pixels ← slot.copy? sample
  return { rows := UInt64.ofNat slot.rowCount, width := UInt64.ofNat slot.columnCount, pixels }

/-- The bitmap of a picture by the loop, for the code that it was loaded for. -/
def copyBitmap? (code : Nat) : Option (Except Fault Bitmap) :=
  match slot.mode with
  | .gray => (slot.copyBy? sampleGray).map .ok
  | .mono => (slot.copyBy? sampleShifted).map .ok
  | .other => some (.error (.glyph code "unsupported pixel mode"))

/-- The distance of rows is the absolute value of a word of 32 bits. -/
lemma stride_le : slot.stride ≤ 2 ^ 31 := by
  have hlow := slot.pitch.le_toInt
  have hhigh := slot.pitch.toInt_lt
  unfold stride
  omega

/-- The places of a row are in order and not behind the end of the buffer. -/
lemma rowStart_le_rowEnd (y : Nat) :
    slot.rowStart y ≤ slot.rowEnd y ∧ slot.rowEnd y ≤ slot.buffer.length := by
  unfold rowEnd rowStart
  omega

/-- Between its places there are the octets of the row.

**Proof sketch.** If the row starts in the buffer, it ends at its length or at the end of the buffer. If
it does not, there is nothing in between, as there is nothing in the buffer from its start on. -/
lemma slice?_row (y : Nat) :
    slice? slot.buffer (slot.rowStart y) (slot.rowEnd y) = some (slot.row y) := by
  rw [slice?, if_pos (slot.rowStart_le_rowEnd y), List.extract_eq_take_drop, row, rowEnd, rowStart]
  by_cases hstart : y * slot.stride ≤ slot.buffer.length
  · rw [min_eq_left hstart]
    refine congrArg some (List.take_eq_take_iff.2 ?_)
    rw [List.length_drop]
    omega
  · have hend : slot.buffer.length ≤ y * slot.stride := by omega
    rw [min_eq_right hend, List.drop_length, List.drop_eq_nil_of_le hend, List.take_nil,
      List.take_nil]

/-- **The row that is cut out** of the buffer, for each row of the picture. -/
theorem cutRow?_eq {y : Nat} (hy : y < slot.rowCount) : slot.cutRow? y = some (slot.row y) := by
  have hrows := slot.rowCount_lt
  have hstride := slot.stride_le
  have hmul : y * slot.stride ≤ 2 ^ 31 * 2 ^ 31 := Nat.mul_le_mul (by omega) hstride
  have hstart : slot.rowStart y ≤ y * slot.stride := min_le_left _ _
  rw [cutRow?, if_pos ⟨by omega, by omega⟩, slice?_row]

/-- One more row is copied. -/
lemma copyRow?_eq {y : Nat} (hy : y < slot.rowCount) (pixels : Array UInt8) :
    slot.copyRow? sample pixels y =
      some (pixels ++ ((List.range slot.columnCount).map (sample (slot.row y))).toArray) := by
  rw [copyRow?, slot.cutRow?_eq hy]
  exact congrArg some List.foldl_push_eq_append

/-- The rows below a number are copied one after the other.

**Proof sketch.** Induction on the number of rows. What is there before the last row is what the rows
before it have left, and the last row is put behind it. -/
lemma foldlM_copyRow? {rows : Nat} (h : rows ≤ slot.rowCount) :
    (List.range rows).foldlM (slot.copyRow? sample) #[] =
      some ((List.range rows).flatMap fun y =>
        (List.range slot.columnCount).map (sample (slot.row y))).toArray := by
  induction rows with
  | zero => rfl
  | succ rows ih =>
    rw [List.range_succ, List.foldlM_append, ih (by omega)]
    simp [slot.copyRow?_eq sample (show rows < slot.rowCount by omega)]

/-- The loop never fails, and copies the pixels of the picture. -/
lemma copyBy?_eq : slot.copyBy? sample = some (slot.bitmapBy sample) := by
  have hroom := slot.rowCount_mul_columnCount_lt
  rw [copyBy?, copy?, if_pos (by omega), slot.foldlM_copyRow? sample (Nat.le_refl _)]
  rfl

/-- **The loop never fails**, and gives the bitmap of the picture. -/
theorem copyBitmap?_eq (code : Nat) : slot.copyBitmap? code = some (slot.bitmap code) := by
  rw [copyBitmap?, bitmap]
  cases slot.mode with
  | gray => simp [copyBy?_eq]
  | mono => simp [copyBy?_eq, sampleShifted_eq]
  | other => rfl

end Loop

/-! ### What is copied -/

section Copied

variable (slot : Slot)

/-- A picture that can be read has the bitmap of the way to read rows that its mode stands for. -/
lemma exists_sample (code : Nat) (hmode : slot.mode ≠ .other) :
    ∃ sample, slot.bitmap code = .ok (slot.bitmapBy sample) ∧
      (slot.mode = .gray → sample = sampleGray) ∧ (slot.mode = .mono → sample = sampleMono) := by
  rw [bitmap]
  cases hm : slot.mode with
  | gray => exact ⟨_, rfl, fun _ => rfl, by simp⟩
  | mono => exact ⟨_, rfl, by simp, fun _ => rfl⟩
  | other => exact absurd hm hmode

/-- **What is copied out of a buffer**, however long it is and whatever the numbers of the picture are.
A picture of one octet or one bit per pixel has a bitmap, and the loop that copies its pixels gives this
bitmap, without leaving the buffer or the words that its places are computed in. The bitmap has the rows
and the columns of the picture, which are none if their number is negative, and exactly as many
intensities as their product. With one octet per pixel, an intensity is the octet of its column. With one
bit, it is 255 or 0 as the bit of its column is on or off. An octet behind the end of its row or of the
buffer counts as zero, even if the buffer goes on with the next row there. The places of a row are in
order and not behind the end of the buffer, and what lies between them is the row. All pixels of the cell
are packed from their places in the bitmap.

**Proof sketch.** The loop gives the bitmap by `copyBitmap?_eq`. As all rows are of one length, each
intensity is at its place, and it is read from its row (`getElem?_row`). As there is one for each pixel,
no place of the cell is too large to be a word (`Bitmap.IsWhole.placesFit`). -/
theorem bitmap_isCopied (code : Nat) (hmode : slot.mode ≠ .other) :
    ∃ bitmap, slot.bitmap code = .ok bitmap ∧ slot.copyBitmap? code = some (.ok bitmap) ∧
      bitmap.rows.toNat = slot.rowCount ∧ bitmap.width.toNat = slot.columnCount ∧
      bitmap.pixels.size = slot.rowCount * slot.columnCount ∧
      (∀ y < slot.rowCount, ∀ x < slot.columnCount,
        (slot.mode = .gray → bitmap.pixels[y * slot.columnCount + x]? =
          some ((slot.octetAt? y x).getD 0)) ∧
        (slot.mode = .mono → bitmap.pixels[y * slot.columnCount + x]? =
          some (if (slot.octetAt? y (x / 8)).any fun octet => octet.toNat.testBit (7 - x % 8)
            then 255 else 0))) ∧
      (∀ y < slot.rowCount, slot.rowStart y ≤ slot.rowEnd y ∧
        slot.rowEnd y ≤ slot.buffer.length ∧
        slice? slot.buffer (slot.rowStart y) (slot.rowEnd y) = some (slot.row y)) ∧
      bitmap.IsPackedByPlace := by
  obtain ⟨sample, hbitmap, hgray, hmono⟩ := slot.exists_sample code hmode
  have hcopy := slot.copyBitmap?_eq code
  rw [hbitmap] at hcopy
  refine ⟨slot.bitmapBy sample, hbitmap, hcopy, slot.toNat_rows_bitmapBy sample,
    slot.toNat_width_bitmapBy sample, slot.size_pixels_bitmapBy sample, ?_, ?_, ?_⟩
  · intro y hy x hx
    rw [slot.getElem?_pixels_bitmapBy sample hy hx]
    refine ⟨fun hm => ?_, fun hm => ?_⟩
    · rw [hgray hm, sampleGray_row]
    · rw [hmono hm, sampleMono_row]
  · intro y _
    obtain ⟨horder, hend⟩ := slot.rowStart_le_rowEnd y
    exact ⟨horder, hend, slot.slice?_row y⟩
  · exact (slot.isWhole_bitmapBy sample).placesFit.isPackedByPlace

/-- Three rows of nine packed bits at a distance of one octet, in a buffer of two. What would be the
ninth bit of the first row belongs to the second row, and nothing is there of the third. -/
theorem bitmap_isCopied_short_buffer :
    let slot : Slot := { rows := 3, width := 9, pitch := -1, mode := .mono, buffer := [0x80, 0xFF] }
    slot.mode ≠ .other ∧
      ∃ bitmap, slot.bitmap 65 = .ok bitmap ∧ slot.copyBitmap? 65 = some (.ok bitmap) ∧
        bitmap.pixels.size = 27 ∧ bitmap.pixels[0]? = some 255 ∧ bitmap.pixels[8]? = some 0 ∧
        bitmap.pixels[16]? = some 255 ∧ bitmap.pixels[17]? = some 0 ∧
        bitmap.pixels[18]? = some 0 := by
  intro slot
  have hmode : slot.mode ≠ .other := by decide
  obtain ⟨bitmap, hbitmap, hcopy, -, -, hsize, hpixels, -⟩ := bitmap_isCopied slot 65 hmode
  have hpixel : ∀ y < 3, ∀ x < 9, bitmap.pixels[y * 9 + x]? =
      some (if (slot.octetAt? y (x / 8)).any fun octet => octet.toNat.testBit (7 - x % 8)
        then 255 else 0) := fun y hy x hx => (hpixels y hy x hx).2 rfl
  refine ⟨hmode, bitmap, hbitmap, hcopy, hsize, ?_, ?_, ?_, ?_, ?_⟩
  · exact (hpixel 0 (by decide) 0 (by decide)).trans (by decide)
  · exact (hpixel 0 (by decide) 8 (by decide)).trans (by decide)
  · exact (hpixel 1 (by decide) 7 (by decide)).trans (by decide)
  · exact (hpixel 1 (by decide) 8 (by decide)).trans (by decide)
  · exact (hpixel 2 (by decide) 0 (by decide)).trans (by decide)

end Copied

end Workbench.Slot
