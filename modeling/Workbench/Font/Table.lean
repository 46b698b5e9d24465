import Workbench.Fault
import Workbench.Font.Bitmap
import Workbench.Log

set_option autoImplicit false

/-!
# Glyph tables

A glyph table has a packed glyph for each of the codes from 0 to 255. It is made by asking a raster
for every code in order; a code that the raster fails on becomes a blank glyph and is counted.

## Main definitions

* `Workbench.Raster` — what renders codes, with a state that its answers may depend on.
* `Workbench.GlyphTable` — the glyphs with the count of those that are missing.
* `Workbench.GlyphTable.convert` — the table of a raster.
* `Workbench.GlyphTable.convertChecked` — the same, unless packing a bitmap overflows.

## Main results

* `Workbench.GlyphTable.length_glyphs_convert` — a table has 256 glyphs.

## Design

The raster is a function of the code and of a state that each call may change, so that nothing is
assumed about how answers relate to each other.
-/

namespace Workbench

/-- Renders a code in a state: the bitmap, or why there is none, and the state afterwards. -/
abbrev Raster (σ : Type) := Nat → σ → Except Fault Bitmap × σ

/-- Glyphs in order of code, and how many of them stand for codes that could not be rendered. -/
structure GlyphTable where
  glyphs : List Glyph
  missing : Nat
  deriving DecidableEq

namespace GlyphTable

/-- The number of codes in a table. -/
def size : Nat := 256

variable {σ : Type}

/-- What is reported for a code that the raster fails on. -/
def fallback (code : Nat) (fault : Fault) : Event :=
  { level := .debug
    component := .converter
    message := "Glyph " ++ Text.hexMarked 2 code ++ " falls back to blank: " ++ fault.message }

/-- What is reported for a table with missing glyphs. -/
def incomplete (missing : Nat) : Event :=
  { level := .info
    component := .converter
    message := "⚠️ " ++ toString missing ++ " of " ++ toString size
      ++ " glyphs missing, emitted as blank" }

/-- The glyphs of some codes in order, with what was reported and the state afterwards. -/
def render (raster : Raster σ) : List Nat → σ → GlyphTable × List Event × σ
  | [], state => ({ glyphs := [], missing := 0 }, [], state)
  | code :: codes, state =>
    match raster code state with
    | (.ok bitmap, next) =>
      let (table, events, last) := render raster codes next
      ({ table with glyphs := bitmap.pack :: table.glyphs }, events, last)
    | (.error fault, next) =>
      let (table, events, last) := render raster codes next
      ({ glyphs := Glyph.blank :: table.glyphs, missing := table.missing + 1 },
        fallback code fault :: events, last)

/-- The table of a raster, with what was reported and the state of the raster afterwards. -/
def convert (raster : Raster σ) (state : σ) : GlyphTable × List Event × σ :=
  let (table, events, last) := render raster (List.range size) state
  (table, if table.missing = 0 then events else events ++ [incomplete table.missing], last)

/-- The first overflow in packing what a raster answers for some codes in order. -/
def overflow? (raster : Raster σ) : List Nat → σ → Option Overflow
  | [], _ => none
  | code :: codes, state =>
    match raster code state with
    | (.ok bitmap, next) =>
      match bitmap.packChecked with
      | .error overflow => some overflow
      | .ok _ => overflow? raster codes next
    | (.error _, next) => overflow? raster codes next

/-- The table of a raster as `convert` gives it. There is none if a bitmap overflows, which stops the
program. -/
def convertChecked (raster : Raster σ) (state : σ) :
    Except Overflow (GlyphTable × List Event × σ) :=
  match overflow? raster (List.range size) state with
  | some overflow => .error overflow
  | none => .ok (convert raster state)

theorem length_glyphs_render (raster : Raster σ) (codes : List Nat) (state : σ) :
    (render raster codes state).1.glyphs.length = codes.length := by
  induction codes generalizing state with
  | nil => rfl
  | cons code codes ih =>
    rw [render]
    split <;> simp [ih]

/-- A table has 256 glyphs. -/
theorem length_glyphs_convert (raster : Raster σ) (state : σ) :
    (convert raster state).1.glyphs.length = size := by
  simp [convert, length_glyphs_render]

end GlyphTable

end Workbench
