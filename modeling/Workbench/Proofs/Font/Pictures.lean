import Workbench.Font.Strike
import Workbench.Proofs.Font.Places

set_option relaxedAutoImplicit false
set_option autoImplicit false

/-!
# From drawn rows to bitmaps

A picture has the rows of a glyph in a buffer of octets, at a distance that may exceed their length.
Reading it gives a bitmap with another distance between its rows, and packing reads that again. Here is
what arrives: a pixel of the cell is lit exactly if the glyph has it on.

## Main definitions

* `Workbench.StrikeGlyph.isOn` — whether a pixel of a drawn glyph is on.
* `Workbench.Slot.Shows` — pictures that hold the rows of a glyph.
* `Workbench.Loader.Draws` — loaders that draw the glyphs of a font.
* `Workbench.Strike.IsWideEnough` — fonts whose rows hold all their pixels.

## Main results

* `Workbench.Slot.isWhole_bitmapBy` — the bitmap of a picture has an intensity for each pixel.
* `Workbench.Slot.isLit_bitmapBy` — which pixels of a picture are lit.
* `Workbench.Slot.Shows.isLit_bitmap` — they are those that the glyph has on.
* `Workbench.Strike.draws_loader` — the loader of a font draws its glyphs.

## Design

`Loader.Draws` is what is asked of whatever draws the pictures: a code shows the glyph that is drawn for
it or else the one that stands in, and the octets of its rows are those of the glyph. Nothing is said
about the octets between the end of a row and the start of the next one, nor about the sign of the
distance.
-/

namespace Workbench

/-! ### Lists of rows -/

/-- The elements of a list that is joined from rows of one length. -/
lemma getElem?_flatMap_of_length {α β : Type} {f : α → List β} {n : Nat} {l : List α}
    (h : ∀ a ∈ l, (f a).length = n) (k : Nat) {i : Nat} (hi : i < n) :
    (l.flatMap f)[k * n + i]? = l[k]?.bind fun a => (f a)[i]? := by
  induction l generalizing k with
  | nil => simp
  | cons a l ih =>
    have hlen : (f a).length = n := h a (by simp)
    rw [List.flatMap_cons]
    cases k with
    | zero =>
      rw [List.getElem?_append_left (by omega)]
      simp
    | succ k =>
      have hpos : (k + 1) * n + i = n + (k * n + i) := by
        rw [Nat.succ_mul]
        omega
      rw [hpos, List.getElem?_append_right (by omega), hlen, Nat.add_sub_cancel_left,
        ih fun b hb => h b (by simp [hb])]
      simp

/-! ### Pixels of a picture -/

namespace Slot

variable (slot : Slot)

/-- The number of rows is a word of 31 bits. -/
lemma rowCount_lt : slot.rowCount < 2 ^ 31 := by
  have h := slot.rows.toInt_lt
  unfold rowCount
  omega

/-- The number of columns is a word of 31 bits. -/
lemma columnCount_lt : slot.columnCount < 2 ^ 31 := by
  have h := slot.width.toInt_lt
  unfold columnCount
  omega

/-- The number of pixels is a word of 62 bits. -/
lemma rowCount_mul_columnCount_lt : slot.rowCount * slot.columnCount < 2 ^ 62 := by
  calc
    slot.rowCount * slot.columnCount < 2 ^ 31 * 2 ^ 31 :=
      Nat.mul_lt_mul'' slot.rowCount_lt slot.columnCount_lt
    _ = 2 ^ 62 := by decide

/-- The intensity of a pixel is at its place in the bitmap. -/
lemma getElem?_pixels (sample : List UInt8 → Nat → UInt8) (y : Nat) {x : Nat}
    (hx : x < slot.columnCount) :
    (slot.pixels sample)[y * slot.columnCount + x]? =
      if y < slot.rowCount then some (sample (slot.row y) x) else none := by
  rw [pixels, getElem?_flatMap_of_length (fun y _ => by simp) y hx]
  by_cases hy : y < slot.rowCount
  · simp [hy, hx]
  · simp [hy]

section BitmapBy

variable (sample : List UInt8 → Nat → UInt8)

/-- The bitmap of a picture has its rows. -/
lemma toNat_rows_bitmapBy : (slot.bitmapBy sample).rows.toNat = slot.rowCount :=
  UInt64.toNat_ofNat_of_lt' (lt_of_lt_of_le slot.rowCount_lt (by decide))

/-- The bitmap of a picture has its columns. -/
lemma toNat_width_bitmapBy : (slot.bitmapBy sample).width.toNat = slot.columnCount :=
  UInt64.toNat_ofNat_of_lt' (lt_of_lt_of_le slot.columnCount_lt (by decide))

/-- The bitmap of a picture has as many intensities as there are pixels. -/
lemma size_pixels_bitmapBy :
    (slot.bitmapBy sample).pixels.size = slot.rowCount * slot.columnCount := by
  rw [bitmapBy, List.size_toArray, pixels, List.length_flatMap]
  simp only [List.length_map, List.length_range, List.map_const', List.sum_replicate_nat]

/-- The bitmap of a picture is whole. -/
lemma isWhole_bitmapBy : (slot.bitmapBy sample).IsWhole := by
  have hcount := slot.rowCount_mul_columnCount_lt
  constructor
  · rw [size_pixels_bitmapBy, toNat_rows_bitmapBy, toNat_width_bitmapBy]
  · rw [size_pixels_bitmapBy]
    omega

/-- The bitmap of a picture has the intensity of each of its pixels. -/
lemma getElem?_pixels_bitmapBy {y x : Nat} (hy : y < slot.rowCount) (hx : x < slot.columnCount) :
    (slot.bitmapBy sample).pixels[y * slot.columnCount + x]? = some (sample (slot.row y) x) := by
  rw [bitmapBy, List.getElem?_toArray, slot.getElem?_pixels sample y hx, if_pos hy]

/-- **Which pixels are lit**: those inside the picture whose intensity is not zero. -/
theorem isLit_bitmapBy (y x : Nat) :
    (slot.bitmapBy sample).isLit y x =
      (decide (y < slot.rowCount) && decide (x < slot.columnCount) &&
        decide (0 < sample (slot.row y) x)) := by
  rw [Bool.eq_iff_iff, Bitmap.isLit_iff, Bitmap.Covers, Bitmap.place, Bitmap.IsLitAt,
    toNat_rows_bitmapBy, toNat_width_bitmapBy, Bool.and_eq_true, Bool.and_eq_true,
    decide_eq_true_iff, decide_eq_true_iff, decide_eq_true_iff]
  refine and_congr_right fun hcovers => ?_
  obtain ⟨hr, hc⟩ := hcovers
  simp [slot.getElem?_pixels_bitmapBy sample hr hc]

end BitmapBy

variable {slot}

/-- The places of the bitmap of a picture are words. -/
lemma placesFit_bitmap {code : Nat} {bitmap : Bitmap} (h : slot.bitmap code = .ok bitmap) :
    bitmap.PlacesFit := by
  unfold Slot.bitmap at h
  split at h
  · exact Except.ok.inj h ▸ (slot.isWhole_bitmapBy sampleGray).placesFit
  · exact Except.ok.inj h ▸ (slot.isWhole_bitmapBy sampleMono).placesFit
  · simp at h

end Slot

/-! ### Pixels of a drawn glyph -/

/-- Whether the pixel in a column of a packed row is on. -/
def PixelMode.isOn (row : List UInt8) (x : Nat) : PixelMode → Bool
  | .mono => (row[x / 8]?.getD 0).toNat.testBit (7 - x % 8)
  | .gray => row[x]?.getD 0 != 0
  | .other => false

/-- Whether the pixel in a row and a column of a drawn glyph is on. -/
def StrikeGlyph.isOn (mode : PixelMode) (glyph : StrikeGlyph) (y x : Nat) : Bool :=
  decide (x < glyph.width) && (glyph.rows[y]?).any fun row => mode.isOn row x

/-- A picture holds the rows of a glyph: it has their number and width, they are packed as in the font,
and the octets that their pixels need are in the buffer, row by row. -/
structure Slot.Shows (slot : Slot) (font : Strike) (glyph : StrikeGlyph) : Prop where
  rows_eq : slot.rows.toInt = glyph.rows.length
  width_eq : slot.width.toInt = glyph.width
  mode_eq : slot.mode = font.mode
  /-- Rows of the picture have room for the pixels of a row. -/
  stride_le : font.rowOctets glyph ≤ slot.stride
  /-- Rows of the glyph are wide enough. -/
  wide : ∀ row ∈ glyph.rows, font.rowOctets glyph ≤ row.length
  /-- The octets of the rows are in the buffer. -/
  octets : ∀ y row, glyph.rows[y]? = some row → ∀ i < font.rowOctets glyph,
    slot.buffer[y * slot.stride + i]? = row[i]?

namespace Slot.Shows

variable {slot : Slot} {font : Strike} {glyph : StrikeGlyph} (h : slot.Shows font glyph)

include h

lemma rowCount_eq : slot.rowCount = glyph.rows.length := by
  rw [rowCount, h.rows_eq, Int.toNat_natCast]

lemma columnCount_eq : slot.columnCount = glyph.width := by
  rw [columnCount, h.width_eq, Int.toNat_natCast]

/-- The rows of the picture begin as those of the glyph do. -/
lemma getElem?_row {y : Nat} {row : List UInt8} (hrow : glyph.rows[y]? = some row) {i : Nat}
    (hi : i < font.rowOctets glyph) : (slot.row y)[i]? = row[i]? := by
  have hstride := h.stride_le
  rw [Slot.row, List.getElem?_take_of_lt (by omega), List.getElem?_drop, h.octets y row hrow i hi]

/-- Packed bits are read as they were drawn. -/
lemma sampleMono_pos_iff (hmode : font.mode = .mono) {y x : Nat} {row : List UInt8}
    (hrow : glyph.rows[y]? = some row) (hx : x < glyph.width) :
    0 < sampleMono (slot.row y) x ↔ PixelMode.mono.isOn row x = true := by
  have hbits : font.bitsPerPixel = 1 := by
    unfold Strike.mode at hmode
    split at hmode <;> simp_all
  have hi : x / 8 < font.rowOctets glyph := by
    rw [Strike.rowOctets, hbits]
    omega
  rw [sampleMono, h.getElem?_row hrow hi, PixelMode.isOn]
  split
  · next hbit => simp [hbit]
  · next hbit => simp [hbit]

/-- Octets are read as they were drawn. -/
lemma sampleGray_pos_iff (hmode : font.mode = .gray) {y x : Nat} {row : List UInt8}
    (hrow : glyph.rows[y]? = some row) (hx : x < glyph.width) :
    0 < sampleGray (slot.row y) x ↔ PixelMode.gray.isOn row x = true := by
  have hbits : font.bitsPerPixel = 8 := by
    unfold Strike.mode at hmode
    split at hmode <;> simp_all
  have hi : x < font.rowOctets glyph := by
    rw [Strike.rowOctets, hbits]
    omega
  rw [sampleGray, h.getElem?_row hrow hi, PixelMode.isOn]
  generalize row[x]?.getD 0 = octet
  rw [bne_iff_ne, UInt8.pos_iff_ne_zero]

/-- **The lit pixels are those that the glyph has on.** -/
theorem isLit_bitmap {code : Nat} {bitmap : Bitmap} (hb : slot.bitmap code = .ok bitmap) (y x : Nat) :
    bitmap.isLit y x = glyph.isOn font.mode y x := by
  have hmode := h.mode_eq
  -- a pixel inside the picture is read from its row, and outside of it nothing is on
  have hread : ∀ sample mode, slot.bitmapBy sample = bitmap → font.mode = mode →
      (∀ row, glyph.rows[y]? = some row → x < glyph.width →
        (0 < sample (slot.row y) x ↔ mode.isOn row x = true)) →
      bitmap.isLit y x = glyph.isOn font.mode y x := by
    rintro sample mode rfl hm hsample
    rw [slot.isLit_bitmapBy sample, h.rowCount_eq, h.columnCount_eq, StrikeGlyph.isOn, hm]
    by_cases hw : x < glyph.width
    · cases hrow : glyph.rows[y]? with
      | none => simp [List.getElem?_eq_none_iff.1 hrow]
      | some row =>
        obtain ⟨hlen, -⟩ := List.getElem?_eq_some_iff.1 hrow
        simp [hw, hlen, hsample row hrow hw]
    · simp [hw]
  unfold Slot.bitmap at hb
  split at hb
  · next hg =>
    have hm : font.mode = .gray := hmode.symm.trans hg
    exact hread _ _ (Except.ok.inj hb) hm fun row hrow hw => h.sampleGray_pos_iff hm hrow hw
  · next hg =>
    have hm : font.mode = .mono := hmode.symm.trans hg
    exact hread _ _ (Except.ok.inj hb) hm fun row hrow hw => h.sampleMono_pos_iff hm hrow hw
  · simp at hb

end Slot.Shows

/-! ### Loaders -/

/-- A loader draws the glyphs of a font: a code shows its own glyph, or the one that stands in for
codes that are not drawn. A font without glyphs has pictures too, with nothing on them. -/
structure Loader.Draws (load : Loader) (font : Strike) : Prop where
  shows : ∀ code glyph, font.glyphFor? code = some glyph →
    ∃ slot, load code = .ok slot ∧ slot.Shows font glyph
  empty : ∀ code, font.glyphFor? code = none →
    ∃ slot, load code = .ok slot ∧ slot.mode = font.mode ∧ slot.rows = 0

namespace Strike

/-- The rows of all glyphs hold their pixels, and the numbers of their pictures fit into words. -/
def IsWideEnough (font : Strike) : Prop :=
  ∀ glyph ∈ font.glyphs, glyph.rows.length < 2 ^ 31 ∧ glyph.width < 2 ^ 31 ∧
    font.rowOctets glyph < 2 ^ 31 ∧ ∀ row ∈ glyph.rows, font.rowOctets glyph ≤ row.length

instance : DecidablePred IsWideEnough := fun font => List.decidableBAll _ font.glyphs

/-- The glyph of the lowest code is one of the glyphs. -/
lemma mem_of_lowest? {glyphs : List StrikeGlyph} {glyph : StrikeGlyph}
    (h : lowest? glyphs = some glyph) : glyph ∈ glyphs := by
  induction glyphs with
  | nil => simp [lowest?] at h
  | cons first rest ih =>
    unfold lowest? at h
    split at h
    · simp_all
    · next other hrest =>
      split at h
      · obtain rfl : other = glyph := by simpa using h
        simp [ih hrest]
      · simp_all

/-- The glyph that a code shows is one of the font's. -/
lemma mem_of_glyphFor? {font : Strike} {code : Nat} {glyph : StrikeGlyph}
    (h : font.glyphFor? code = some glyph) : glyph ∈ font.glyphs := by
  have hdrawn : ∀ {code : Nat}, font.drawn? code = some glyph → glyph ∈ font.glyphs :=
    fun h => List.mem_of_find?_eq_some h
  rcases Option.or_eq_some_iff.1 h with h | ⟨-, h⟩
  · exact hdrawn h
  · rcases Option.or_eq_some_iff.1 h with h | ⟨-, h⟩
    · obtain ⟨standIn, -, h⟩ := Option.bind_eq_some_iff.1 h
      exact hdrawn h
    · exact mem_of_lowest? h

/-- A font with a glyph shows a glyph for every code. -/
lemma exists_glyphFor? {font : Strike} (h : font.glyphs ≠ []) (code : Nat) :
    ∃ glyph, font.glyphFor? code = some glyph := by
  have hlowest : lowest? font.glyphs ≠ none := by
    obtain ⟨first, rest, hglyphs⟩ := List.exists_cons_of_ne_nil h
    rw [hglyphs, lowest?]
    split
    · simp
    · split <;> simp
  rw [← Option.ne_none_iff_exists']
  simp [glyphFor?, fallback?, hlowest]

/-- **The loader of a font draws its glyphs**, if their rows are wide enough. -/
theorem draws_loader {font : Strike} (h : font.IsWideEnough) : font.loader.Draws font := by
  constructor
  · intro code glyph hg
    obtain ⟨hrows, hwidth, hoctets, hwide⟩ := h glyph (mem_of_glyphFor? hg)
    have hstride : (font.slotOf glyph).stride = font.rowOctets glyph := by
      simp [Slot.stride, slotOf, Int32.toInt_ofNat_of_lt hoctets]
    have hfit : ∀ row ∈ glyph.rows,
        fitRow (font.rowOctets glyph) row = row.take (font.rowOctets glyph) := fun row hm => by
      simp [fitRow, Nat.sub_eq_zero_of_le (hwide row hm)]
    refine ⟨font.slotOf glyph, by simp [loader, load, hg], ?_⟩
    refine ⟨Int32.toInt_ofNat_of_lt hrows, Int32.toInt_ofNat_of_lt hwidth, rfl, hstride.ge, hwide, ?_⟩
    intro y row hrow i hi
    have hlen : ∀ row ∈ glyph.rows,
        (fitRow (font.rowOctets glyph) row).length = font.rowOctets glyph := fun row hm => by
      rw [hfit row hm, List.length_take, min_eq_left (hwide row hm)]
    rw [hstride, slotOf, getElem?_flatMap_of_length hlen y hi, hrow, Option.bind_some,
      hfit row (List.mem_of_getElem? hrow), List.getElem?_take_of_lt hi]
  · intro code hg
    exact ⟨font.emptySlot, by simp [loader, load, hg], rfl, rfl⟩

end Strike

end Workbench
