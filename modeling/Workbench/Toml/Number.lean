import Workbench.Text.Digit
import Workbench.Text.Fields
import Workbench.Toml.Value

set_option autoImplicit false

/-!
# Numbers of documents

Integers are decimal with an optional sign, or unsigned in radix 16, 8 or 2 after a mark. A number
with a point or an exponent is a real one, as are infinity and the value that is no number. Single
underscores may stand between digits, and no decimal number starts with a superfluous zero.

## Main definitions

* `Workbench.Toml.isSpaced` — whether underscores stand between digits only.
* `Workbench.Toml.integer?`, `Workbench.Toml.real?` — decimal numbers.
* `Workbench.Toml.number?` — the value of a word that looks like a number.

## Design

A word that starts with a digit, goes on with an underscore and has no sign of a real number is taken
for an integer by its looks. If it stands for none, because of a letter or another character in it,
it is an illegible value and not an error, as is the bare mark of a radix. A tab may be in it too, but
a word with a space is no number.
-/

namespace Workbench.Toml

/-! ### Digits and underscores -/

/-- Whether the underscores of a word stand alone and between digits of a kind. -/
def isSpaced (digit : Char → Bool) (word : List Char) : Bool :=
  let parts := Text.fields (· == '_') word
  parts.all (fun part => !part.isEmpty)
    && parts.tail.all (fun part => part.head?.any digit)
    && parts.dropLast.all (fun part => part.getLast?.any digit)

/-- A word without its underscores. -/
def unspaced (word : List Char) : List Char := word.filter (· != '_')

/-- The digits of a radix that a text consists of; there must be one. -/
def digits? (radix : Nat) (cs : List Char) : Option (List Nat) :=
  if cs.isEmpty then none else cs.mapM (Text.digitValue? radix)

/-- The number of its digits. -/
def ofDigits (radix : Nat) (ds : List Nat) : Nat := ds.foldl (fun n d => n * radix + d) 0

/-- Whether the whole part of a number starts with a zero and goes on. -/
def hasSuperfluousZero (whole : List Char) : Bool := whole.head? == some '0' && 1 < whole.length

/-! ### Signs -/

/-- Whether a sign is there and negative, and what follows it. -/
def cutSign : List Char → Option Bool × List Char
  | '+' :: rest => (some false, rest)
  | '-' :: rest => (some true, rest)
  | cs => (none, cs)

/-- A number with its sign. -/
def signed (negative : Bool) (n : Nat) : Int := if negative then -(n : Int) else n

/-! ### Decimal numbers -/

/-- The value of a word that has the looks of an integer, without its sign. -/
def integer? (negative : Bool) (body : List Char) : Value :=
  match digits? 10 (unspaced body) with
  | some ds => .integer (signed negative (ofDigits 10 ds))
  | none => .illegible

/-- The parts before and after the first character of a kind; the second one only if there is such a
character. -/
def cutAt (cuts : Char → Bool) (cs : List Char) : List Char × Option (List Char) :=
  (cs.takeWhile fun c => !cuts c,
    match cs.dropWhile fun c => !cuts c with
    | [] => none
    | _ :: rest => some rest)

/-- Whether a character starts an exponent. -/
def startsExponent (c : Char) : Bool := c == 'e' || c == 'E'

/-- The value of an exponent. -/
def exponent? (cs : List Char) : Option Int :=
  let (sign, body) := cutSign cs
  (digits? 10 body).map fun ds => signed (sign.getD false) (ofDigits 10 ds)

/-- The real number of a word without its sign and its underscores. -/
def real? (negative : Bool) (cs : List Char) : Option Value := do
  let (mantissa, power) := cutAt startsExponent cs
  let (before, after) := cutAt (· == '.') mantissa
  let whole ← digits? 10 before
  let fraction ← (after.map (digits? 10)).getD (some [])
  let exponent ← (power.map exponent?).getD (some 0)
  pure (.real (.decimal negative (ofDigits 10 (whole ++ fraction)) (exponent - fraction.length)))

/-- Whether a text without a sign looks like a real number. -/
def looksReal (body : List Char) : Bool := body.any fun c => c == '.' || startsExponent c

/-- Whether a text without a sign looks like an integer: digits, and perhaps an underscore and
anything after it. -/
def looksInteger (body : List Char) : Bool :=
  match body.dropWhile Text.isDecimal with
  | [] => !body.isEmpty
  | c :: _ => c == '_'

/-- The value of a word that looks like a decimal number, given with and without its sign. -/
def decimal? (negative : Bool) (word body : List Char) : Option Value :=
  if looksReal body then
    let whole := unspaced (body.takeWhile fun c => Text.isDecimal c || c == '_')
    if hasSuperfluousZero whole && body.head? == some '0' then none
    else if isSpaced Text.isDecimal word then real? negative (unspaced body)
    else none
  else if looksInteger body && !hasSuperfluousZero body && isSpaced Text.isHex word then
    some (integer? negative body)
  else none

/-! ### Numbers -/

/-- The value of a word with the mark of a radix. -/
def marked? (radix : Nat) (body : List Char) : Option Value :=
  if body.isEmpty then some .illegible
  else if isSpaced (fun c => (Text.digitValue? radix c).isSome) body then
    (digits? radix (unspaced body)).map fun ds => .integer (ofDigits radix ds)
  else none

/-- The value of a word that looks like a number. -/
def number? (word : List Char) : Option Value :=
  match word with
  | '0' :: 'x' :: body => marked? 16 body
  | '0' :: 'o' :: body => marked? 8 body
  | '0' :: 'b' :: body => marked? 2 body
  | _ =>
    let (sign, body) := cutSign word
    let negative := sign.getD false
    match body with
    | ['i', 'n', 'f'] => some (.real (.infinite negative))
    | ['n', 'a', 'n'] => some (.real .nan)
    | _ => if word.contains ' ' then none else decimal? negative word body

end Workbench.Toml
