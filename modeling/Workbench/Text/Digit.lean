set_option autoImplicit false

/-!
# Digits

Digits of a radix up to sixteen, the hexadecimal and decimal forms in which the tools print numbers,
and the reading of bounded numbers from text. A number is read from left to right and the first
problem wins, so that every rejected text has exactly one `NumeralFault`.

## Main definitions

* `Workbench.Text.digitValue?` — the value of a digit in a radix.
* `Workbench.Text.hexOctet`, `Workbench.Text.hexNumber` — octets and numbers in hexadecimal.
* `Workbench.Text.readWord` — an unsigned number below a bound, after an optional plus sign.
* `Workbench.Text.readInteger` — a number with an optional sign between two bounds.

## Design

The reader of a bounded number never computes past its bound: it stops at the first digit that would
leave the range, unless that character is no digit at all.
-/

namespace Workbench.Text

/-! ### Single digits -/

/-- The value of an ASCII digit or letter as a digit of a radix above it. -/
def digitValue? (radix : Nat) (c : Char) : Option Nat :=
  let n := c.toNat
  let value :=
    if 0x30 ≤ n ∧ n ≤ 0x39 then some (n - 0x30)
    else if 0x61 ≤ n ∧ n ≤ 0x7A then some (n - 0x61 + 10)
    else if 0x41 ≤ n ∧ n ≤ 0x5A then some (n - 0x41 + 10)
    else none
  value.filter (· < radix)

/-- Whether a character is a decimal digit. -/
def isDecimal (c : Char) : Bool := (digitValue? 10 c).isSome

/-- Whether a character is a hexadecimal digit of either case. -/
def isHex (c : Char) : Bool := (digitValue? 16 c).isSome

/-- The lower-case digit of a value below sixteen. -/
def lowerDigit (n : Nat) : Char :=
  if n < 10 then Char.ofNat (0x30 + n) else Char.ofNat (0x61 + n - 10)

/-- The upper-case digit of a value below sixteen. -/
def upperDigit (n : Nat) : Char :=
  if n < 10 then Char.ofNat (0x30 + n) else Char.ofNat (0x41 + n - 10)

/-! ### Numbers in hexadecimal -/

/-- An octet as two lower-case digits. -/
def hexOctet (b : UInt8) : List Char :=
  [lowerDigit (b.toNat / 16), lowerDigit (b.toNat % 16)]

/-- An octet as two upper-case digits. -/
def hexOctetUpper (b : UInt8) : List Char :=
  [upperDigit (b.toNat / 16), upperDigit (b.toNat % 16)]

/-- The lower-case digits of a number, most significant first, at least `width` of them. -/
def hexNumber (width n : Nat) : List Char :=
  if n < 16 then List.replicate (width - 1) '0' ++ [lowerDigit n]
  else hexNumber (width - 1) (n / 16) ++ [lowerDigit (n % 16)]
termination_by n
decreasing_by omega

/-- A number with the mark `0x` and at least `width` digits. -/
def hexMarked (width n : Nat) : String := "0x" ++ String.ofList (hexNumber width n)

/-- Octets as pairs of lower-case digits without separators. -/
def hexOctets (bs : List UInt8) : String := String.ofList (bs.flatMap hexOctet)

/-- The octet of two hexadecimal digits. -/
def octetOfDigits? (high low : Char) : Option UInt8 := do
  let h ← digitValue? 16 high
  let l ← digitValue? 16 low
  pure (UInt8.ofNat (16 * h + l))

/-- The octets written as pairs of digits. -/
def octetsOfHex? : List Char → Option (List UInt8)
  | [] => some []
  | [_] => none
  | high :: low :: rest => do
    let b ← octetOfDigits? high low
    let bs ← octetsOfHex? rest
    pure (b :: bs)

/-! ### Reading bounded numbers -/

/-- What is wrong with the text of a number. -/
inductive NumeralFault where
  /-- There is no text at all. -/
  | empty
  /-- A character is not a digit of the radix. -/
  | badDigit
  /-- The value lies above the range. -/
  | tooLarge
  /-- The value lies below the range. -/
  | tooSmall
  deriving DecidableEq, Repr

/-- The wording of a fault. -/
def NumeralFault.message : NumeralFault → String
  | .empty => "cannot parse integer from empty string"
  | .badDigit => "invalid digit found in string"
  | .tooLarge => "number too large to fit in target type"
  | .tooSmall => "number too small to fit in target type"

/-- Continues a number with the digits of a text, up to a bound. -/
def readDigits (radix bound : Nat) : List Char → Nat → Except NumeralFault Nat
  | [], value => .ok value
  | c :: rest, value =>
    match digitValue? radix c with
    | none => .error .badDigit
    | some d =>
      if value * radix + d ≤ bound then readDigits radix bound rest (value * radix + d)
      else .error .tooLarge

/-- A number that must have at least one digit. -/
def readMagnitude (radix bound : Nat) : List Char → Except NumeralFault Nat
  | [] => .error .badDigit
  | digits => readDigits radix bound digits 0

/-- An unsigned number up to a bound, after an optional plus sign. -/
def readWord (radix bound : Nat) : List Char → Except NumeralFault Nat
  | [] => .error .empty
  | '+' :: digits => readMagnitude radix bound digits
  | digits => readMagnitude radix bound digits

/-- A decimal number after an optional sign, of magnitude at most `2 ^ 63 - 1`, or `2 ^ 63` when
negative. -/
def readInteger : List Char → Except NumeralFault Int
  | [] => .error .empty
  | '+' :: digits => (readMagnitude 10 (Nat.pow 2 63 - 1) digits).map Int.ofNat
  | '-' :: digits =>
    match readMagnitude 10 (Nat.pow 2 63) digits with
    | .ok n => .ok (-(n : Int))
    | .error .tooLarge => .error .tooSmall
    | .error fault => .error fault
  | digits => (readMagnitude 10 (Nat.pow 2 63 - 1) digits).map Int.ofNat

end Workbench.Text
