set_option autoImplicit false

/-!
# Errors of the rasterizer

A font that could not be opened, sized or rendered has an error number. Numbers that the rasterizer
gives no meaning share one wording.

## Main definitions

* `Workbench.FontError` — an error number.
* `Workbench.FontError.message` — its text.
-/

namespace Workbench

/-- Why a font could not be opened, sized or rendered. -/
structure FontError where
  number : Nat
  deriving DecidableEq, Repr

namespace FontError

/-- The path leads to no file that can be read. -/
def cannotOpenResource : FontError := ⟨1⟩

/-- What is there is no font. -/
def unknownFileFormat : FontError := ⟨2⟩

/-- The font is not drawn for the pixel size. -/
def invalidPixelSize : FontError := ⟨23⟩

/-- The name of an error number. -/
def describe : Nat → String
  | 0 => "Ok"
  | 1 => "Cannot open resource"
  | 2 => "Unknown file format"
  | 3 => "Invalid file format"
  | 4 => "Invalid version"
  | 5 => "Lower module version"
  | 6 => "Invalid argument"
  | 7 => "Unimplemented feature"
  | 8 => "Invalid table"
  | 9 => "Invalid offset"
  | 10 => "Array too large"
  | 11 => "Missing module"
  | 12 => "Missing property"
  | 16 => "Invalid glyph index"
  | 17 => "Invalid character code"
  | 18 => "Invalid glyph format"
  | 19 => "Cannot render glyph"
  | 20 => "Invalid outline"
  | 21 => "Invalid composite"
  | 22 => "Too many hints"
  | 23 => "Invalid pixel size"
  | 32 => "Invalid handle"
  | 33 => "Invalid library handle"
  | 34 => "Invalid driver handle"
  | 35 => "Invalid face handle"
  | 36 => "Invalid size handle"
  | 37 => "Invalid slot handle"
  | 38 => "Invalid char map handle"
  | 39 => "Invalid cache handle"
  | 40 => "Invalid stream handle"
  | 48 => "Too many drivers"
  | 49 => "Too many extensions"
  | 64 => "Out of memory"
  | 65 => "Unlisted object"
  | 81 => "Cannot open stream"
  | 82 => "Invalid stream seek"
  | 83 => "Invalid stream skip"
  | 84 => "Invalid stream read"
  | 85 => "Invalid stream operation"
  | 86 => "Invalid frame operation"
  | 87 => "Nested frame access"
  | 88 => "Invalid frame read"
  | 96 => "Raster uninitialized"
  | 97 => "Raster corrupted"
  | 98 => "Raster overflow"
  | 99 => "Raster negative height"
  | 112 => "Too many caches"
  | 128 => "Invalid opcode"
  | 129 => "Too few arguments"
  | 130 => "Stack overflow"
  | 131 => "Code overflow"
  | 132 => "Bad argument"
  | 133 => "Divide by zero"
  | 134 => "Invalid reference"
  | 135 => "Debug op code"
  | 136 => "Endf in exec stream"
  | 137 => "Nested defs"
  | 138 => "Invalid code range"
  | 139 => "Execution too long"
  | 140 => "Too many function defs"
  | 141 => "Too many instruction defs"
  | 142 => "Table missing"
  | 143 => "Horiz header missing"
  | 144 => "Locations missing"
  | 145 => "Name table missing"
  | 146 => "C map table missing"
  | 147 => "Hmtx table missing"
  | 148 => "Post table missing"
  | 149 => "Invalid horiz metrics"
  | 150 => "Invalid char map format"
  | 151 => "Invalid p pem"
  | 152 => "Invalid vert metrics"
  | 153 => "Could not find context"
  | 154 => "Invalid post table format"
  | 155 => "Invalid post table"
  | 160 => "Syntax"
  | 161 => "Stack underflow"
  | 162 => "Ignore"
  | 163 => "No unicode glyph name"
  | 176 => "Missing startfont field"
  | 177 => "Missing font field"
  | 178 => "Missing size field"
  | 179 => "Missing fontboundingbox field"
  | 180 => "Missing chars field"
  | 181 => "Missing startchar field"
  | 182 => "Missing encoding field"
  | 183 => "Missing bbx field"
  | 184 => "Bbx too big"
  | 185 => "Corrupted font header"
  | 186 => "Corrupted font glyphs"
  | 187 => "Max"
  | _ => "Unknown"

/-- The wording of a font error. -/
def message (error : FontError) : String := describe error.number

end FontError

end Workbench
