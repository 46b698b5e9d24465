import Workbench.Proofs.Font.Conversion

set_option relaxedAutoImplicit false
set_option autoImplicit false

/-!
# Codes that a font lacks

A table is meant to be blank at every code that the font lacks, and to count these codes. But a loader
does not fail on such a code: it draws the glyph that stands in, and only failures become counted
blanks. This file says what is at these codes instead, and for which fonts the table is as it is meant.

## Main definitions

* `Workbench.Strike.Lacks` — codes that are not drawn.
* `Workbench.Strike.LackingAreBlank` — tables that are blank at these codes and count them.

## Main results

* `Workbench.Loader.Draws.entry_eq_blank_iff` — when the entry of such a code is blank.
* `Workbench.Loader.Draws.lacking_blank_iff` — when all these entries are blank.
* `Workbench.lackingAreBlank_iff` — the fonts whose tables are blank there and count all of them.
* `Workbench.not_lackingAreBlank` — a font of one glyph, which is at all other codes too.
-/

namespace Workbench

namespace Strike

/-- A code that is not drawn. -/
def Lacks (font : Strike) (code : Nat) : Prop := font.drawn? code = none

instance (font : Strike) : DecidablePred font.Lacks := fun _ => inferInstanceAs (Decidable (_ = none))

/-- How many codes of a table are not drawn. -/
def lackingCount (font : Strike) : Nat :=
  (List.range GlyphTable.size).countP fun code => decide (font.Lacks code)

/-- A table is blank at every code that the font lacks, and all these codes are counted. -/
structure LackingAreBlank (font : Strike) (table : GlyphTable) : Prop where
  blank : ∀ code < GlyphTable.size, font.Lacks code → table.glyphs[code]? = some Glyph.blank
  counted : font.lackingCount ≤ table.missing

/-- A code that is not drawn shows the glyph that stands in. -/
lemma glyphFor?_of_lacks {font : Strike} {code : Nat} (h : font.Lacks code) :
    font.glyphFor? code = font.fallback? := by
  have hdrawn : font.drawn? code = none := h
  rw [glyphFor?, hdrawn, Option.none_or]

/-- The count is zero exactly if all codes of a table are drawn. -/
lemma lackingCount_eq_zero_iff {font : Strike} :
    font.lackingCount = 0 ↔ ∀ code < GlyphTable.size, ¬ font.Lacks code := by
  rw [lackingCount, List.countP_eq_zero]
  simp

end Strike

namespace Loader.Draws

variable {load : Loader} {font : Strike} (h : load.Draws font)

include h

/-- Without a glyph to show, an entry is blank. -/
lemma entry_of_glyphFor?_eq_none {code : Nat} (hg : font.glyphFor? code = none) :
    GlyphTable.entry (load.rasterize code) = Glyph.blank := by
  obtain ⟨slot, hload, -, hrows⟩ := h.empty code hg
  have hcount : slot.rowCount = 0 := by
    rw [Slot.rowCount, hrows]
    rfl
  have hblank : ∀ sample, (slot.bitmapBy sample).pack = Glyph.blank := by
    refine fun sample => Bitmap.pack_eq_blank_iff.2 fun y _ x _ => ?_
    rw [slot.isLit_bitmapBy sample, hcount]
    simp
  rw [rasterize_of_ok hload, Slot.bitmap]
  cases slot.mode with
  | gray => exact hblank _
  | mono => exact hblank _
  | other => rfl

/-- **When the entry of a code that the font lacks is blank**: if the glyph that stands in, should there
be one, has no pixel on in the cell. -/
theorem entry_eq_blank_iff {code : Nat} (hl : font.Lacks code) :
    GlyphTable.entry (load.rasterize code) = Glyph.blank ↔
      ∀ glyph, font.fallback? = some glyph → glyph.IsOffInCell font.mode := by
  have hshown : font.glyphFor? code = font.fallback? := Strike.glyphFor?_of_lacks hl
  cases hf : font.fallback? with
  | none => simp [h.entry_of_glyphFor?_eq_none (hshown.trans hf)]
  | some glyph =>
    rw [(h.isPackedAs (hshown.trans hf)).eq_blank_iff]
    simp

/-- **When a table is blank at all codes that the font lacks**: if there are none, or the glyph that
stands in for them has no pixel on in the cell. -/
theorem lacking_blank_iff :
    (∀ code < GlyphTable.size, font.Lacks code →
      load.table.glyphs[code]? = some Glyph.blank) ↔
      (∀ code < GlyphTable.size, ¬ font.Lacks code) ∨
        ∀ glyph, font.fallback? = some glyph → glyph.IsOffInCell font.mode := by
  have hentry : ∀ code < GlyphTable.size, font.Lacks code →
      (load.table.glyphs[code]? = some Glyph.blank ↔
        ∀ glyph, font.fallback? = some glyph → glyph.IsOffInCell font.mode) := by
    intro code hc hl
    rw [load.getElem?_glyphs_table hc, Option.some.injEq, h.entry_eq_blank_iff hl]
  constructor
  · intro hall
    by_cases hnone : ∀ code < GlyphTable.size, ¬ font.Lacks code
    · exact .inl hnone
    · push Not at hnone
      obtain ⟨code, hc, hl⟩ := hnone
      exact .inr ((hentry code hc hl).1 (hall code hc hl))
  · rintro (hnone | hoff) code hc hl
    · exact absurd hl (hnone code hc)
    · exact (hentry code hc hl).2 hoff

end Loader.Draws

/-- **What a table has at the codes that a font lacks.** Over a loader that draws the glyphs of a font,
the entry of such a code has the pixels of the glyph that stands in. The entries of all these codes are
blank exactly if there are none or that glyph has no pixel on in the cell. Glyphs are counted as missing
all at once or not at all, depending on how the font is packed. So a table is blank at all these codes
and counts them exactly if nothing can be read from the font or it lacks no code of the table.

**Proof sketch.** The entries are those of the glyph that stands in (`Loader.Draws.isPackedAs`,
`Loader.Draws.lacking_blank_iff`). If the font can be read, no glyph is counted as missing
(`Loader.Draws.missing_table`), so that counting the codes it lacks means that there are none; if it
cannot be read, all entries are blank and counted. -/
theorem lackingAreBlank_iff {load : Loader} {font : Strike} (h : load.Draws font) :
    (∀ code < GlyphTable.size, font.Lacks code → ∀ glyph, font.fallback? = some glyph →
      ∃ entry, load.table.glyphs[code]? = some entry ∧ glyph.IsPackedAs font.mode entry) ∧
    ((∀ code < GlyphTable.size, font.Lacks code → load.table.glyphs[code]? = some Glyph.blank) ↔
      (∀ code < GlyphTable.size, ¬ font.Lacks code) ∨
        ∀ glyph, font.fallback? = some glyph → glyph.IsOffInCell font.mode) ∧
    load.table.missing = (if font.mode = .other then GlyphTable.size else 0) ∧
    (font.LackingAreBlank load.table ↔
      font.mode = .other ∨ ∀ code < GlyphTable.size, ¬ font.Lacks code) := by
  have hblank := h.lacking_blank_iff
  refine ⟨fun code hc hl glyph hf => ?_, hblank, h.missing_table, ?_, ?_⟩
  · exact ⟨_, load.getElem?_glyphs_table hc,
      h.isPackedAs ((Strike.glyphFor?_of_lacks hl).trans hf)⟩
  · intro hgood
    by_cases hm : font.mode = .other
    · exact .inl hm
    · have hcounted := hgood.counted
      rw [h.missing_table, if_neg hm, Nat.le_zero] at hcounted
      exact .inr (Strike.lackingCount_eq_zero_iff.1 hcounted)
  · rintro (hm | hnone)
    · refine ⟨hblank.2 (.inr fun glyph _ => hm ▸ glyph.isOffInCell_other), ?_⟩
      rw [h.missing_table, if_pos hm]
      exact List.countP_le_length.trans (List.length_range).le
    · refine ⟨fun code hc hl => absurd hl (hnone code hc), ?_⟩
      rw [Strike.lackingCount_eq_zero_iff.2 hnone]
      exact Nat.zero_le _

/-- A font of eight bits per pixel with a blank glyph that stands in: its table is blank at the codes
that it lacks, but counts none of them. -/
theorem lackingAreBlank_iff_blank_standIn :
    let font : Strike :=
      { pixelSize := 8
        bitsPerPixel := 8
        standIn := some 32
        glyphs := [⟨32, 1, [[0]]⟩, ⟨65, 2, [[9, 0]]⟩] }
    font.loader.Draws font ∧
      font.loader.table.glyphs[66]? = some Glyph.blank ∧ font.loader.table.missing = 0 ∧
      ¬ font.LackingAreBlank font.loader.table := by
  intro font
  have hdraws : font.loader.Draws font := Strike.draws_loader (by decide)
  obtain ⟨-, hblank, hmissing, hiff⟩ := lackingAreBlank_iff hdraws
  have hoff : ∀ glyph, font.fallback? = some glyph → glyph.IsOffInCell font.mode := by
    intro glyph hf
    have hfallback : font.fallback? = some ⟨32, 1, [[0]]⟩ := rfl
    obtain rfl := Option.some.inj (hfallback.symm.trans hf)
    unfold StrikeGlyph.IsOffInCell
    decide
  refine ⟨hdraws, hblank.2 (.inr hoff) 66 (by decide) rfl, hmissing, fun hgood => ?_⟩
  rcases hiff.1 hgood with hm | hnone
  · exact absurd hm (by decide)
  · exact hnone 66 (by decide) rfl

/-- The glyph of a font of one glyph is at all other codes too, and none of them is counted. -/
theorem not_lackingAreBlank :
    let font : Strike := { pixelSize := 16, glyphs := [⟨65, 8, [[0x80]]⟩] }
    font.select 16 = .ok font ∧ font.Lacks 66 ∧
      font.loader.table.glyphs[66]? = font.loader.table.glyphs[65]? ∧
      font.loader.table.glyphs[66]? ≠ some Glyph.blank ∧
      ¬ font.LackingAreBlank font.loader.table := by
  intro font
  have hentry : ∀ code < GlyphTable.size, font.loader.table.glyphs[code]? =
      some (GlyphTable.entry (font.loader.rasterize code)) := fun code hc =>
    font.loader.getElem?_glyphs_table hc
  have hsame : font.loader.rasterize 66 = font.loader.rasterize 65 := rfl
  have hlit : font.loader.table.glyphs[66]? ≠ some Glyph.blank := by
    rw [hentry 66 (by decide)]
    decide
  refine ⟨rfl, rfl, ?_, hlit, fun hgood => hlit (hgood.blank 66 (by decide) rfl)⟩
  rw [hentry 66 (by decide), hentry 65 (by decide), hsame]

end Workbench
