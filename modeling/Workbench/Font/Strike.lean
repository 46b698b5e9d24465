import Workbench.Font.Table

set_option autoImplicit false

/-!
# Bitmap fonts

A strike is a font drawn for one pixel size: for every code that it has, rows of packed pixels. Its
glyphs pass through a slot, which holds one picture as rows of a fixed pitch, and become bitmaps of
one intensity per pixel.

## Main definitions

* `Workbench.PixelMode`, `Workbench.Slot` — a picture and how its pixels are packed.
* `Workbench.Slot.bitmap` — the intensities of a picture.
* `Workbench.Loader`, `Workbench.Loader.raster` — what draws the picture of a code, and its raster.
* `Workbench.Strike` — a bitmap font.
* `Workbench.Strike.load` — the picture of a code, with the font's stand-in for a code it lacks.
* `Workbench.Strike.raster` — the font as a raster.

## Design

A slot is taken as it comes: its buffer may be shorter or longer than its rows need, and its numbers,
which are words of 32 bits, may be negative. A pixel that lies outside its row or outside the buffer
is off. A loader is any function, so that nothing is assumed about how pictures are drawn; the one of a
strike is the case in which there is a picture for every code.
-/

namespace Workbench

/-! ### Pictures -/

/-- How the pixels of a row are packed. -/
inductive PixelMode where
  /-- One bit per pixel, first pixel in the highest bit. -/
  | mono
  /-- One octet per pixel. -/
  | gray
  /-- Anything else. -/
  | other
  deriving DecidableEq, Repr

/-- One picture. -/
structure Slot where
  rows : Int32
  width : Int32
  /-- The distance from one row to the next; its sign tells the direction and is of no account. -/
  pitch : Int32
  mode : PixelMode
  buffer : List UInt8

namespace Slot

/-- The number of rows; there are none if it is negative. -/
def rowCount (slot : Slot) : Nat := slot.rows.toInt.toNat

/-- The number of columns; there are none if it is negative. -/
def columnCount (slot : Slot) : Nat := slot.width.toInt.toNat

/-- The number of octets from one row to the next. -/
def stride (slot : Slot) : Nat := slot.pitch.toInt.natAbs

/-- The octets of a row, as far as the buffer has them. -/
def row (slot : Slot) (y : Nat) : List UInt8 :=
  (slot.buffer.drop (y * slot.stride)).take slot.stride

/-- The intensity of a pixel in a row of octets. -/
def sampleGray (row : List UInt8) (x : Nat) : UInt8 := row[x]?.getD 0

/-- The intensity of a pixel in a row of packed bits: full or none. -/
def sampleMono (row : List UInt8) (x : Nat) : UInt8 :=
  let octet := row[x / 8]?.getD 0
  if octet.toNat.testBit (7 - x % 8) then 0xFF else 0

/-- The intensities of all pixels, row by row. -/
def pixels (slot : Slot) (sample : List UInt8 → Nat → UInt8) : List UInt8 :=
  (List.range slot.rowCount).flatMap fun y =>
    let row := slot.row y
    (List.range slot.columnCount).map (sample row)

/-- The bitmap of a picture by a way to read its rows. -/
def bitmapBy (slot : Slot) (sample : List UInt8 → Nat → UInt8) : Bitmap :=
  { rows := UInt64.ofNat slot.rowCount
    width := UInt64.ofNat slot.columnCount
    pixels := (slot.pixels sample).toArray }

/-- The bitmap of a picture, for the code that it was loaded for. -/
def bitmap (slot : Slot) (code : Nat) : Except Fault Bitmap :=
  match slot.mode with
  | .gray => .ok (slot.bitmapBy sampleGray)
  | .mono => .ok (slot.bitmapBy sampleMono)
  | .other => .error (.glyph code "unsupported pixel mode")

end Slot

/-! ### Loaders -/

/-- Draws the picture of a code, or tells why there is none. -/
abbrev Loader := Nat → Except FontError Slot

namespace Loader

/-- The bitmap of the picture that is drawn for a code. -/
def rasterize (load : Loader) (code : Nat) : Except Fault Bitmap :=
  match load code with
  | .error cause => .error (.font cause)
  | .ok slot => slot.bitmap code

/-- A loader as a raster, which keeps no state. -/
def raster (load : Loader) : Raster Unit := fun code state => (load.rasterize code, state)

end Loader

/-! ### Fonts -/

/-- A drawn character: its code, its width in pixels and its packed rows. -/
structure StrikeGlyph where
  code : Nat
  width : Nat
  rows : List (List UInt8)
  deriving DecidableEq

/-- A font drawn for one pixel size. -/
structure Strike where
  pixelSize : Nat
  bitsPerPixel : Nat := 1
  /-- The code whose glyph stands in for codes that are not drawn. -/
  standIn : Option Nat := none
  glyphs : List StrikeGlyph
  deriving DecidableEq

namespace Strike

/-- How the pixels of a font are packed. -/
def mode (font : Strike) : PixelMode :=
  match font.bitsPerPixel with
  | 1 => .mono
  | 8 => .gray
  | _ => .other

/-- The glyph drawn for a code. -/
def drawn? (font : Strike) (code : Nat) : Option StrikeGlyph :=
  font.glyphs.find? (·.code == code)

/-- The glyph of the lowest code among some glyphs. -/
def lowest? : List StrikeGlyph → Option StrikeGlyph
  | [] => none
  | glyph :: glyphs =>
    match lowest? glyphs with
    | none => some glyph
    | some other => if other.code < glyph.code then some other else some glyph

/-- The glyph that stands in for codes that are not drawn. -/
def fallback? (font : Strike) : Option StrikeGlyph :=
  (font.standIn.bind font.drawn?).or (lowest? font.glyphs)

/-- The glyph that a code shows: its own, or the stand-in. -/
def glyphFor? (font : Strike) (code : Nat) : Option StrikeGlyph :=
  (font.drawn? code).or font.fallback?

/-- A row of exactly so many octets. -/
def fitRow (pitch : Nat) (row : List UInt8) : List UInt8 :=
  row.take pitch ++ List.replicate (pitch - row.length) 0

/-- The number of octets that hold a row of a glyph. -/
def rowOctets (font : Strike) (glyph : StrikeGlyph) : Nat :=
  (glyph.width * font.bitsPerPixel + 7) / 8

/-- The picture of a glyph. -/
def slotOf (font : Strike) (glyph : StrikeGlyph) : Slot :=
  { rows := Int32.ofNat glyph.rows.length
    width := Int32.ofNat glyph.width
    pitch := Int32.ofNat (font.rowOctets glyph)
    mode := font.mode
    buffer := glyph.rows.flatMap (fitRow (font.rowOctets glyph)) }

/-- The picture of nothing. -/
def emptySlot (font : Strike) : Slot :=
  { rows := 0, width := 0, pitch := 0, mode := font.mode, buffer := [] }

/-- The picture that a code shows. -/
def load (font : Strike) (code : Nat) : Slot :=
  match font.glyphFor? code with
  | some glyph => font.slotOf glyph
  | none => font.emptySlot

/-- The loader of a font, which draws a picture for every code. -/
def loader (font : Strike) : Loader := fun code => .ok (font.load code)

/-- The bitmap that a code shows. -/
def rasterize (font : Strike) (code : Nat) : Except Fault Bitmap := font.loader.rasterize code

/-- The font as a raster. -/
def raster (font : Strike) : Raster Unit := font.loader.raster

/-! ### Opening -/

/-- A font serves a pixel size if it is drawn for it; a size of zero means one. -/
def select (font : Strike) (pixelSize : Nat) : Except FontError Strike :=
  if max pixelSize 1 = font.pixelSize then .ok font else .error .invalidPixelSize

/-- What is reported for a font that was opened. -/
def loaded (path : String) (pixelSize : Nat) : Event :=
  { level := .debug
    component := .strike
    message := "Loaded font " ++ path ++ " at " ++ toString pixelSize ++ "px" }

end Strike

end Workbench
