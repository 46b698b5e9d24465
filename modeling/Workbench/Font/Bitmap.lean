import Workbench.Number.Word
import Workbench.Text.Digit

set_option autoImplicit false

/-!
# Bitmaps and glyphs

A bitmap holds the intensities of a rendered character, row by row. A glyph is the cell of eight by
sixteen pixels at its top left, with a byte for each row and the leftmost pixel in the highest bit.

## Main definitions

* `Workbench.Bitmap` — intensities with the number of rows and columns.
* `Workbench.Bitmap.isLit` — whether a pixel of the cell is on.
* `Workbench.Glyph` — sixteen packed rows.
* `Workbench.Bitmap.pack` — the glyph of a bitmap.
* `Workbench.Bitmap.packChecked` — the same in words, which may overflow.

## Design

The number of rows and columns are words of 64 bits, and so is the place of a pixel among the
intensities. The program stops at the first pixel of the cell whose place is no word, which no bitmap has
that holds one intensity for each pixel. So packing is told twice: in words, as it happens, and with
places that are counted without bounds, for bitmaps of which it is known that they are packed.
A bitmap may hold fewer or more intensities than its dimensions say; a pixel that is missing is off.
-/

namespace Workbench

/-- Intensities of pixels, row by row. -/
structure Bitmap where
  rows : UInt64
  width : UInt64
  pixels : Array UInt8
  deriving DecidableEq

/-- One byte for each row of the cell, leftmost pixel in the highest bit. -/
abbrev Glyph := Vector UInt8 16

namespace Glyph

/-- The columns of the cell. -/
def cellWidth : Nat := 8

/-- The rows of the cell. -/
def cellHeight : Nat := 16

/-- The cell with every pixel off. -/
def blank : Glyph := Vector.replicate 16 0

end Glyph

namespace Bitmap

section Packing

variable (bitmap : Bitmap)

/-- Whether the pixel in a row and a column is inside the bitmap, present and not zero. -/
def isLit (y x : Nat) : Bool :=
  y < bitmap.rows.toNat && x < bitmap.width.toNat
    && (bitmap.pixels[y * bitmap.width.toNat + x]?).any (· > 0)

/-- An octet with the bit of a column set if the pixel is lit. -/
def mark (octet : UInt8) (x : Nat) (lit : Bool) : UInt8 :=
  if lit then octet ||| (1 <<< UInt8.ofNat (7 - x)) else octet

/-- A row of the cell. -/
def packRow (y : Nat) : UInt8 :=
  (List.range Glyph.cellWidth).foldl (fun octet x => mark octet x (bitmap.isLit y x)) 0

/-- The glyph at the top left of a bitmap. -/
def pack : Glyph := Vector.ofFn fun y => bitmap.packRow y

/-! ### Packing in words -/

/-- The place of a pixel among the intensities. -/
def placeChecked (y x : UInt64) : Except Overflow UInt64 := do
  let start ← Word.multiply y bitmap.width
  Word.add start x

/-- Whether a pixel is lit. Its place is computed only if it is inside the bitmap. -/
def isLitChecked (y x : Nat) : Except Overflow Bool :=
  if UInt64.ofNat y < bitmap.rows ∧ UInt64.ofNat x < bitmap.width then do
    let place ← bitmap.placeChecked (UInt64.ofNat y) (UInt64.ofNat x)
    return (bitmap.pixels[place.toNat]?).any (· > 0)
  else .ok false

/-- A row of the cell, column by column. -/
def packRowChecked (y : Nat) : Except Overflow UInt8 :=
  (List.range Glyph.cellWidth).foldlM
    (fun octet x => return mark octet x (← bitmap.isLitChecked y x)) 0

/-- The glyph at the top left of a bitmap, row by row. -/
def packChecked : Except Overflow Glyph := Vector.ofFnM fun y => bitmap.packRowChecked y

end Packing

end Bitmap

end Workbench
