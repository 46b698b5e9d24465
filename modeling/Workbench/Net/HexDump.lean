import Workbench.Text.Digit
import Workbench.Text.Fields

set_option autoImplicit false

/-!
# Hex dumps

The classic dump of sixteen octets to a line: the offset, the octets in hexadecimal, and the octets
as characters where they are printable.

## Main definitions

* `Workbench.HexDump.line` — one line of a dump.
* `Workbench.HexDump.dump` — the lines for all octets.
* `Workbench.HexDump.octetsOfLine?`, `Workbench.HexDump.octets?` — reading a dump back.
-/

namespace Workbench.HexDump

/-- Octets on one line. -/
def perLine : Nat := 16

/-- The columns that the octets of a full line take. -/
def hexColumns : Nat := 47

/-- The octets in hexadecimal, with single spaces between them. -/
def hexColumn (row : List UInt8) : List Char :=
  [' '].intercalate (row.map Text.hexOctet)

/-- An octet as a character: itself if it is printable, a point otherwise. -/
def glyph (b : UInt8) : Char :=
  if 0x20 ≤ b.toNat ∧ b.toNat ≤ 0x7E then Char.ofNat b.toNat else '.'

/-- A text with spaces added on the right up to a width. -/
def padRight (width : Nat) (cs : List Char) : List Char :=
  cs ++ List.replicate (width - cs.length) ' '

/-- One line of a dump, with its end. -/
def line (offset : Nat) (row : List UInt8) : List Char :=
  Text.hexNumber 4 offset ++ [' ', ' '] ++ padRight hexColumns (hexColumn row) ++ [' ', ' ']
    ++ row.map glyph ++ ['\n']

/-- The lines of a dump from an offset on. -/
def linesFrom (offset : Nat) (bs : List UInt8) : List Char :=
  if bs = [] then []
  else line offset (bs.take perLine) ++ linesFrom (offset + perLine) (bs.drop perLine)
termination_by bs.length
decreasing_by
  have h : 0 < bs.length := List.length_pos_iff.mpr ‹_›
  rw [List.length_drop, perLine]
  omega

/-- The dump of octets. -/
def dump (bs : List UInt8) : String := String.ofList (linesFrom 0 bs)

/-! ### Reading a dump back -/

/-- The octets of a hexadecimal column: pairs of digits with single spaces between them, up to the
first place where the next pair is missing. -/
def octetsOfColumn? : List Char → Option (List UInt8)
  | high :: low :: ' ' :: ' ' :: _ => (Text.octetOfDigits? high low).map ([·])
  | [high, low] => (Text.octetOfDigits? high low).map ([·])
  | high :: low :: ' ' :: rest => do
    let b ← Text.octetOfDigits? high low
    let bs ← octetsOfColumn? rest
    pure (b :: bs)
  | _ => none

/-- The octets of a line without its end: what stands in the columns after the offset and two
spaces. -/
def octetsOfLine? (cs : List Char) : Option (List UInt8) :=
  octetsOfColumn? (((cs.dropWhile Text.isHex).drop 2).take hexColumns)

/-- The octets of a whole dump, every line of which ends. -/
def octets? (s : String) : Option (List UInt8) :=
  ((Text.fields (· == '\n') s.toList).dropLast.mapM octetsOfLine?).map List.flatten

end Workbench.HexDump
