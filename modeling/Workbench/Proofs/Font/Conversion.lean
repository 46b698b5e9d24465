import Workbench.Proofs.Font.Pictures

set_option relaxedAutoImplicit false
set_option autoImplicit false

/-!
# Tables of bitmap fonts

A table has, for each code, the packed answer of the raster. Over a loader that draws the glyphs of a
font, the bits of an entry are therefore the pixels of the glyph that the code shows, as far as they
lie in the cell, and nothing else has an influence on them.

## Main definitions

* `Workbench.GlyphTable.answers` — what a raster answers for codes, one after the other.
* `Workbench.GlyphTable.entry` — the glyph that an answer becomes.
* `Workbench.Loader.table` — the table of a loader.
* `Workbench.StrikeGlyph.IsPackedAs` — entries whose bits are the pixels of a drawn glyph.
* `Workbench.StrikeGlyph.AgreesInCell` — drawn glyphs with the same pixels in the cell.

## Main results

* `Workbench.GlyphTable.glyphs_convert`, `Workbench.GlyphTable.missing_convert` — the table in terms of
  the answers.
* `Workbench.GlyphTable.convertChecked_eq_ok_iff` — when no bitmap stops the program.
* `Workbench.Loader.Draws.missing_table` — how many glyphs are missing.
* `Workbench.Loader.Draws.isPackedAs` — the bits of an entry.
* `Workbench.bits_reach_table` — the octets of an entry, for each depth of pixels.
-/

namespace Workbench

/-! ### Tables and answers -/

namespace GlyphTable

variable {σ : Type}

/-- What a raster answers for codes, one after the other. -/
def answers (raster : Raster σ) : List Nat → σ → List (Except Fault Bitmap)
  | [], _ => []
  | code :: codes, state =>
    (raster code state).1 :: answers raster codes (raster code state).2

/-- The glyph that an answer becomes: the packed bitmap, or a blank for a fault. -/
def entry : Except Fault Bitmap → Glyph
  | .ok bitmap => bitmap.pack
  | .error _ => Glyph.blank

/-- Whether an answer is a fault. -/
def isFault : Except Fault Bitmap → Bool
  | .ok _ => false
  | .error _ => true

/-- The glyphs of a table are what the answers become, in order. -/
lemma glyphs_render (raster : Raster σ) (codes : List Nat) (state : σ) :
    (render raster codes state).1.glyphs = (answers raster codes state).map entry := by
  induction codes generalizing state with
  | nil => rfl
  | cons code codes ih =>
    rw [render, answers]
    split
    · next bitmap next h => simp [h, ih, entry]
    · next fault next h => simp [h, ih, entry]

/-- The missing glyphs of a table are the answers that are faults. -/
lemma missing_render (raster : Raster σ) (codes : List Nat) (state : σ) :
    (render raster codes state).1.missing = (answers raster codes state).countP isFault := by
  induction codes generalizing state with
  | nil => rfl
  | cons code codes ih =>
    rw [render, answers]
    split
    · next bitmap next h => simp [h, ih, isFault]
    · next fault next h => simp [h, ih, isFault, List.countP_cons]

/-- The glyphs of a table are what the answers for all codes become. -/
lemma glyphs_convert (raster : Raster σ) (state : σ) : (convert raster state).1.glyphs =
    (answers raster (List.range size) state).map entry := by
  rw [convert]
  exact glyphs_render raster (List.range size) state

/-- The missing glyphs of a table are the answers for all codes that are faults. -/
lemma missing_convert (raster : Raster σ) (state : σ) : (convert raster state).1.missing =
    (answers raster (List.range size) state).countP isFault := by
  rw [convert]
  exact missing_render raster (List.range size) state

/-- An answer to some codes is the answer to a code in a state. -/
lemma exists_of_mem_answers {raster : Raster σ} {codes : List Nat} {state : σ}
    {answer : Except Fault Bitmap} (h : answer ∈ answers raster codes state) :
    ∃ code reached, (raster code reached).1 = answer := by
  induction codes generalizing state with
  | nil => simp [answers] at h
  | cons code codes ih =>
    rcases List.mem_cons.1 h with rfl | hrest
    · exact ⟨code, state, rfl⟩
    · exact ih hrest

/-- Packing what a raster answers does not overflow if the places of all bitmaps are words. -/
lemma overflow?_eq_none_iff {raster : Raster σ} {codes : List Nat} {state : σ} :
    overflow? raster codes state = none ↔
      ∀ bitmap, .ok bitmap ∈ answers raster codes state → bitmap.PlacesFit := by
  induction codes generalizing state with
  | nil => simp [overflow?, answers]
  | cons code codes ih =>
    rw [overflow?, answers]
    split
    · next bitmap next h =>
      cases hpacked : bitmap.packChecked with
      | ok glyph => simp [h, ih, (Bitmap.packChecked_eq_ok_iff.1 hpacked).1]
      | error overflow =>
        have hnot : ¬ bitmap.PlacesFit := fun hfit => by simp [hfit.packChecked_eq] at hpacked
        simp [h, hnot]
    · next fault next h => simp [h, ih]

/-- **When a table is made**: if the places of all bitmaps are words. -/
theorem convertChecked_eq_ok_iff {raster : Raster σ} {state : σ} :
    convertChecked raster state = .ok (convert raster state) ↔
      ∀ bitmap, .ok bitmap ∈ answers raster (List.range size) state → bitmap.PlacesFit := by
  rw [← overflow?_eq_none_iff, convertChecked]
  cases overflow? raster (List.range size) state <;> simp

end GlyphTable

/-! ### Tables of loaders -/

namespace Loader

variable (load : Loader)

/-- The table of a loader. -/
def table : GlyphTable := (GlyphTable.convert load.raster ()).1

/-- The answers of a loader do not depend on each other. -/
lemma answers_raster (codes : List Nat) :
    GlyphTable.answers load.raster codes () = codes.map load.rasterize := by
  induction codes with
  | nil => rfl
  | cons code codes ih => exact congrArg (load.rasterize code :: ·) ih

/-- The entry of a code is what the answer for it becomes. -/
lemma getElem?_glyphs_table {code : Nat} (hc : code < GlyphTable.size) :
    load.table.glyphs[code]? = some (GlyphTable.entry (load.rasterize code)) := by
  rw [table, GlyphTable.glyphs_convert, answers_raster, List.map_map, List.getElem?_map,
    List.getElem?_range hc]
  rfl

/-- The missing glyphs are the codes whose answer is a fault. -/
lemma missing_table : load.table.missing =
    (List.range GlyphTable.size).countP fun code => GlyphTable.isFault (load.rasterize code) := by
  rw [table, GlyphTable.missing_convert, answers_raster, List.countP_map]
  rfl

variable {load : Loader} {font : Strike}

/-- The picture of a code is packed as the font is. -/
lemma Draws.exists_slot (h : load.Draws font) (code : Nat) :
    ∃ slot, load code = .ok slot ∧ slot.mode = font.mode := by
  cases hg : font.glyphFor? code with
  | none =>
    obtain ⟨slot, hload, hmode, -⟩ := h.empty code hg
    exact ⟨slot, hload, hmode⟩
  | some glyph =>
    obtain ⟨slot, hload, hshows⟩ := h.shows code glyph hg
    exact ⟨slot, hload, hshows.mode_eq⟩

/-- The answer for a code that has a picture. -/
lemma rasterize_of_ok {code : Nat} {slot : Slot} (h : load code = .ok slot) :
    load.rasterize code = slot.bitmap code := by
  rw [rasterize, h]

/-- Every code has a bitmap or none has, depending on how the font is packed. -/
lemma Draws.isFault_rasterize (h : load.Draws font) (code : Nat) :
    GlyphTable.isFault (load.rasterize code) = decide (font.mode = .other) := by
  obtain ⟨slot, hload, hmode⟩ := h.exists_slot code
  rw [rasterize_of_ok hload, ← hmode, Slot.bitmap]
  cases slot.mode <;> rfl

/-- **How many glyphs are missing**: all or none, depending on how the font is packed. -/
theorem Draws.missing_table (h : load.Draws font) :
    load.table.missing = if font.mode = .other then GlyphTable.size else 0 := by
  rw [Loader.missing_table, List.countP_congr fun code _ => by rw [h.isFault_rasterize code]]
  by_cases hm : font.mode = .other
  · simp [hm]
  · simp [hm]

end Loader

/-! ### What reaches the table -/

/-- The bits of an entry are the pixels of a drawn glyph. -/
def StrikeGlyph.IsPackedAs (glyph : StrikeGlyph) (mode : PixelMode) (entry : Glyph) : Prop :=
  ∀ y, (hy : y < 16) → ∀ x < 8, entry[y].toNat.testBit (7 - x) = glyph.isOn mode y x

/-- Drawn glyphs that have the same pixels on in the cell. -/
def StrikeGlyph.AgreesInCell (mode : PixelMode) (a b : StrikeGlyph) : Prop :=
  ∀ y < 16, ∀ x < 8, a.isOn mode y x = b.isOn mode y x

/-- A drawn glyph has no pixel on in the cell. -/
def StrikeGlyph.IsOffInCell (mode : PixelMode) (glyph : StrikeGlyph) : Prop :=
  ∀ y < 16, ∀ x < 8, glyph.isOn mode y x = false

/-- No pixel is on that cannot be read. -/
lemma StrikeGlyph.isOffInCell_other (glyph : StrikeGlyph) : glyph.IsOffInCell .other := by
  intro y _ x _
  rw [isOn]
  cases glyph.rows[y]? <;> simp [PixelMode.isOn]

namespace StrikeGlyph.IsPackedAs

variable {glyph : StrikeGlyph} {entry : Glyph}

/-- Glyphs that agree in the cell are packed as the same entry. -/
lemma eq_of_agreesInCell {mode : PixelMode} {other : StrikeGlyph} {entry' : Glyph}
    (h : glyph.IsPackedAs mode entry) (h' : other.IsPackedAs mode entry')
    (hagree : glyph.AgreesInCell mode other) : entry' = entry := by
  refine Vector.ext fun y hy => octet_ext_columns fun x hx => ?_
  rw [h' y hy x hx, h y hy x hx, hagree y hy x hx]

/-- A row of packed bits is packed as its first octet, cut to the width.

**Proof sketch.** Bit by bit: the pixel of a column below eight is a bit of the first octet, and it is
on only if the column is inside the glyph, that is, if the bit is one of those that are kept. -/
lemma eq_keepTop (h : glyph.IsPackedAs .mono entry) {y : Nat} (hy : y < 16) {row : List UInt8}
    (hrow : glyph.rows[y]? = some row) {first : UInt8} (hfirst : row[0]? = some first) :
    entry[y] = keepTop (min glyph.width 8) first := by
  refine octet_ext_columns fun x hx => ?_
  have hoctet : x / 8 = 0 := by omega
  have hcolumn : x % 8 = x := by omega
  have hkept : x < glyph.width ↔ 8 - min glyph.width 8 ≤ 7 - x := by omega
  rw [h y hy x hx, isOn, hrow, Option.any_some, PixelMode.isOn, hoctet, hcolumn, hfirst,
    Option.getD_some, testBit_keepTop _ _ (by omega), decide_eq_decide.2 hkept]

/-- Outside of a glyph nothing is packed. -/
lemma eq_zero {mode : PixelMode} (h : glyph.IsPackedAs mode entry) {y : Nat} (hy : y < 16)
    (hout : glyph.rows.length ≤ y ∨ glyph.width = 0) : entry[y] = 0 := by
  refine octet_ext_columns fun x hx => ?_
  rw [h y hy x hx, isOn]
  rcases hout with hout | hout
  · simp [List.getElem?_eq_none hout]
  · simp [hout]

/-- An octet of a row is packed as one bit, set exactly if it is not zero. -/
lemma testBit_iff (h : glyph.IsPackedAs .gray entry) {y : Nat} (hy : y < 16) {x : Nat} (hx : x < 8) :
    entry[y].toNat.testBit (7 - x) = true ↔ x < glyph.width ∧
      ∃ row octet, glyph.rows[y]? = some row ∧ row[x]? = some octet ∧ octet ≠ 0 := by
  rw [h y hy x hx, isOn, Bool.and_eq_true, decide_eq_true_iff]
  refine and_congr_right fun _ => ?_
  cases hrow : glyph.rows[y]? with
  | none => simp
  | some row => cases ho : row[x]? <;> simp [PixelMode.isOn, ho]

/-- A glyph is packed as a blank exactly if it has no pixel on in the cell. -/
lemma eq_blank_iff {mode : PixelMode} (h : glyph.IsPackedAs mode entry) :
    entry = Glyph.blank ↔ glyph.IsOffInCell mode := by
  rw [Glyph.eq_blank_iff]
  exact forall₂_congr fun y hy => forall₂_congr fun x hx => by rw [h y hy x hx]

end StrikeGlyph.IsPackedAs

/-- **The entry of a code has the pixels of the glyph that the code shows.**

**Proof sketch.** If the font is packed in a way that can be read, the entry is the packed bitmap of
the picture, whose lit pixels are those of the glyph (`Slot.Shows.isLit_bitmap`). If it is not, the
entry is blank and no pixel counts as on. -/
theorem Loader.Draws.isPackedAs {load : Loader} {font : Strike} (h : load.Draws font) {code : Nat}
    {glyph : StrikeGlyph} (hg : font.glyphFor? code = some glyph) :
    glyph.IsPackedAs font.mode (GlyphTable.entry (load.rasterize code)) := by
  intro y hy x hx
  obtain ⟨slot, hload, hshows⟩ := h.shows code glyph hg
  have hfault := h.isFault_rasterize code
  rw [rasterize_of_ok hload] at hfault ⊢
  cases hb : slot.bitmap code with
  | ok bitmap =>
    rw [GlyphTable.entry, Bitmap.getElem_pack bitmap hy, Bitmap.testBit_packRow bitmap y hx,
      hshows.isLit_bitmap hb]
  | error fault =>
    rw [hb] at hfault
    have hother : font.mode = .other := of_decide_eq_true hfault.symm
    rw [hother, glyph.isOffInCell_other y hy x hx]
    simp [GlyphTable.entry, Glyph.blank]

/-- **What a table takes from a font.** Let a font with a glyph be opened at its pixel size, and let a
loader draw its glyphs. Then the entry of each code is made from the glyph that the code shows. With
one bit per pixel, the octet of a row is the first octet of the glyph's row with as many of its highest
bits as the glyph is wide, and zero outside of the glyph. With eight bits, the bit of a column is set
exactly if the glyph has the octet of that column and it is not zero. With two or four bits all entries
are blank and all of them are counted as missing. Of two glyphs of one depth, in whatever fonts, that
agree in the cell the entries are the same, so that nothing else of a glyph has an influence.

**Proof sketch.** All of it is read off the pixels that the entry has (`Loader.Draws.isPackedAs`). -/
theorem bits_reach_table {font opened : Strike} {pixelSize : Nat} {load : Loader}
    (hopen : font.select pixelSize = .ok opened) (hne : opened.glyphs ≠ [])
    (hdraws : load.Draws opened) {code : Nat} (hcode : code < GlyphTable.size) :
    opened = font ∧ ∃ glyph entry, font.glyphFor? code = some glyph ∧
      load.table.glyphs[code]? = some entry ∧
      (font.bitsPerPixel = 1 → ∀ y, (hy : y < 16) →
        (∀ row, glyph.rows[y]? = some row → 0 < glyph.width →
          ∃ first, row[0]? = some first ∧ entry[y] = keepTop (min glyph.width 8) first) ∧
        (glyph.rows.length ≤ y ∨ glyph.width = 0 → entry[y] = 0)) ∧
      (font.bitsPerPixel = 8 → ∀ y, (hy : y < 16) → ∀ x < 8,
        (entry[y].toNat.testBit (7 - x) = true ↔ x < glyph.width ∧
          ∃ row octet, glyph.rows[y]? = some row ∧ row[x]? = some octet ∧ octet ≠ 0)) ∧
      (font.bitsPerPixel = 2 ∨ font.bitsPerPixel = 4 →
        entry = Glyph.blank ∧ load.table.missing = GlyphTable.size) ∧
      ∀ (other : Strike) (load' : Loader) (code' : Nat) (glyph' : StrikeGlyph),
        other.bitsPerPixel = font.bitsPerPixel → load'.Draws other → code' < GlyphTable.size →
        other.glyphFor? code' = some glyph' → glyph.AgreesInCell font.mode glyph' →
        load'.table.glyphs[code']? = some entry := by
  obtain rfl : opened = font := by
    unfold Strike.select at hopen
    split at hopen
    · exact (Except.ok.inj hopen).symm
    · simp at hopen
  obtain ⟨glyph, hg⟩ := Strike.exists_glyphFor? hne code
  have hpacked := hdraws.isPackedAs hg
  refine ⟨rfl, glyph, _, hg, load.getElem?_glyphs_table hcode, ?_, ?_, ?_, ?_⟩
  · intro hdepth y hy
    have hmono : opened.mode = .mono := by simp [Strike.mode, hdepth]
    refine ⟨fun row hrow hw => ?_, hpacked.eq_zero hy⟩
    -- a row that is wide enough for a pixel has a first octet
    obtain ⟨slot, -, hshows⟩ := hdraws.shows code glyph hg
    have hwide := hshows.wide row (List.mem_of_getElem? hrow)
    have hpos : 0 < row.length := by
      rw [Strike.rowOctets, hdepth] at hwide
      omega
    have hfirst : row[0]? = some row[0] := List.getElem?_eq_getElem hpos
    exact ⟨row[0], hfirst, (hmono ▸ hpacked).eq_keepTop hy hrow hfirst⟩
  · intro hdepth y hy x hx
    have hgray : opened.mode = .gray := by simp [Strike.mode, hdepth]
    exact (hgray ▸ hpacked).testBit_iff hy hx
  · intro hdepth
    have hother : opened.mode = .other := by rcases hdepth with h | h <;> simp [Strike.mode, h]
    refine ⟨hpacked.eq_blank_iff.2 ?_, by rw [hdraws.missing_table, if_pos hother]⟩
    exact hother ▸ glyph.isOffInCell_other
  · intro other load' code' glyph' hdepth hdraws' hcode' hg' hagree
    have hmode : other.mode = opened.mode := by simp [Strike.mode, hdepth]
    rw [load'.getElem?_glyphs_table hcode']
    exact congrArg some (hpacked.eq_of_agreesInCell (hmode ▸ hdraws'.isPackedAs hg') hagree)

/-- A narrow glyph with bits behind its last column, and a wide one that stands in for codes that are
not drawn. -/
theorem bits_reach_table_narrow :
    let font : Strike :=
      { pixelSize := 2
        standIn := some 66
        glyphs := [⟨65, 3, [[0xBF]]⟩, ⟨66, 12, [[0x80, 0x1F], [0x7F, 0xFF]]⟩] }
    (font.select 2 = .ok font ∧ font.glyphs ≠ [] ∧ font.loader.Draws font ∧
      65 < GlyphTable.size ∧ 7 < GlyphTable.size) ∧
    (∃ entry, font.loader.table.glyphs[65]? = some entry ∧ entry[0] = 0xA0 ∧ entry[1] = 0) ∧
      ∃ entry, font.loader.table.glyphs[7]? = some entry ∧ entry[0] = 0x80 ∧ entry[1] = 0x7F := by
  intro font
  have hopen : font.select 2 = .ok font := rfl
  have hne : font.glyphs ≠ [] := by decide
  have hdraws : font.loader.Draws font := Strike.draws_loader (by decide)
  have hnarrow : 65 < GlyphTable.size := by decide
  have hlacking : 7 < GlyphTable.size := by decide
  refine ⟨⟨hopen, hne, hdraws, hnarrow, hlacking⟩, ?_, ?_⟩
  · obtain ⟨-, glyph, entry, hg, hentry, hbits, -⟩ := bits_reach_table hopen hne hdraws hnarrow
    have hshown : font.glyphFor? 65 = some ⟨65, 3, [[0xBF]]⟩ := rfl
    obtain rfl := Option.some.inj (hshown.symm.trans hg)
    obtain ⟨first, hfirst, hrow⟩ := (hbits rfl 0 (by decide)).1 _ rfl (by decide)
    obtain rfl : (0xBF : UInt8) = first := by simpa using hfirst
    exact ⟨entry, hentry, hrow.trans (by decide), (hbits rfl 1 (by decide)).2 (.inl (by decide))⟩
  · obtain ⟨-, glyph, entry, hg, hentry, hbits, -⟩ := bits_reach_table hopen hne hdraws hlacking
    have hshown : font.glyphFor? 7 = some ⟨66, 12, [[0x80, 0x1F], [0x7F, 0xFF]]⟩ := rfl
    obtain rfl := Option.some.inj (hshown.symm.trans hg)
    obtain ⟨first, hfirst, hrow⟩ := (hbits rfl 0 (by decide)).1 _ rfl (by decide)
    obtain ⟨second, hsecond, hrow'⟩ := (hbits rfl 1 (by decide)).1 _ rfl (by decide)
    obtain rfl : (0x80 : UInt8) = first := by simpa using hfirst
    obtain rfl : (0x7F : UInt8) = second := by simpa using hsecond
    exact ⟨entry, hentry, hrow.trans (by decide), hrow'.trans (by decide)⟩

end Workbench
