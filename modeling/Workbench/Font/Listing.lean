import Workbench.Fault
import Workbench.Font.Table
import Workbench.Text.Capitals

set_option autoImplicit false

/-!
# Listings of glyphs

A glyph table is delivered as source text: an array for C, a constant for Rust, or a JSON array of
arrays. The header of the first two carries the names of the array; the octets are the same in all
three.

## Main definitions

* `Workbench.Listing.Format` — the three forms, and the reading of their names.
* `Workbench.Listing.Names` — the identifiers in a header.
* `Workbench.Listing.render` — the text of glyphs.
-/

namespace Workbench.Listing

/-! ### Formats -/

/-- The forms of a listing. -/
inductive Format where
  | c | rust | json
  deriving DecidableEq, Repr

/-- The form that a name stands for, in either case. -/
def Format.read (s : String) : Except Fault Format :=
  match s.toLower with
  | "c" => .ok .c
  | "rust" => .ok .rust
  | "rs" => .ok .rust
  | "json" => .ok .json
  | other => .error (.badValue "format" other "Supported formats: c, rust, json")

/-- The identifiers that a header names. -/
structure Names where
  name : String := "font"
  elementType : String := "U8"
  deriving DecidableEq, Repr

/-! ### Headers -/

/-- The header of the array for C. -/
def headerC (names : Names) (count : Nat) : String :=
  "const " ++ names.elementType ++ " " ++ names.name ++ "[" ++ toString count ++ "]["
    ++ toString Glyph.cellHeight ++ "] = \x7b\n"

/-- The header of the constant for Rust, whose name is in capitals. -/
def headerRust (names : Names) (count : Nat) : String :=
  "pub const " ++ Text.inCapitals names.name ++ ": [[u8; " ++ toString Glyph.cellHeight ++ "]; "
    ++ toString count ++ "] = [\n"

/-! ### Rows -/

/-- An octet with its mark, in upper case. -/
def octet (b : UInt8) : String := "0x" ++ String.ofList (Text.hexOctetUpper b)

/-- A glyph in the array for C: every octet is followed by a comma. -/
def rowC (glyph : Glyph) : String :=
  "  \x7b" ++ String.join (glyph.toList.map fun b => octet b ++ ",") ++ "\x7d,\n"

/-- A glyph in the constant for Rust: commas stand between octets. -/
def rowRust (glyph : Glyph) : String :=
  "    [" ++ ", ".intercalate (glyph.toList.map octet) ++ "],\n"

/-- A glyph as an array of numbers. -/
def rowJson (glyph : Glyph) : String :=
  "[" ++ ",".intercalate (glyph.toList.map fun b => toString b.toNat) ++ "]"

/-! ### Listings -/

/-- The text of glyphs in a form. -/
def render (format : Format) (names : Names) (glyphs : List Glyph) : String :=
  match format with
  | .c => headerC names glyphs.length ++ String.join (glyphs.map rowC) ++ "\x7d;\n"
  | .rust => headerRust names glyphs.length ++ String.join (glyphs.map rowRust) ++ "];\n"
  | .json => "[" ++ ",".intercalate (glyphs.map rowJson) ++ "]\n"

end Workbench.Listing
