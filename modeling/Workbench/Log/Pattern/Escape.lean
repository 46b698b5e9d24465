import Workbench.Log.Pattern.Mode
import Workbench.Text.Digit

set_option autoImplicit false

/-!
# Escapes of expressions

A backslash in a regular expression starts an escape: a character by its number or by a letter of its
own, a place between characters, a set of characters, or a category of Unicode.

## Main definitions

* `Workbench.Pattern.Escape` — what an escape stands for.
* `Workbench.Pattern.escape?` — what follows a backslash.
* `Workbench.Pattern.Escape.isAllowed` — whether an escape has a meaning in a mode.

## Design

Expressions speak about Unicode characters unless they switch that off, and then they must still match
whole characters: what an ASCII set leaves over is not one. Borders of words are understood in ASCII
only, and asking for them among all characters is an error. No escape is written with braces, since a
closing brace ends the field that the expression belongs to.
-/

namespace Workbench.Pattern

/-- What an escape stands for. -/
inductive Escape where
  /-- One character. -/
  | character (code : Nat)
  /-- One character, or an octet where characters are not those of Unicode. -/
  | octet (code : Nat)
  /-- A place between characters, perhaps one at the border of a word. -/
  | place (atWord : Bool)
  /-- A set of characters, perhaps all but those of a set. -/
  | kind (isNegated : Bool)
  /-- A category of Unicode characters. -/
  | category
  deriving DecidableEq, Repr

/-! ### Characters by number -/

/-- The number that goes on with so many hexadecimal digits. -/
def hexCode? (mode : Mode) : Nat → Nat → List Char → Option (Nat × List Char)
  | 0, n, cs => some (n, cs)
  | count + 1, n, cs =>
    match mode.skip cs with
    | [] => none
    | c :: rest => (Text.digitValue? 16 c).bind fun d => hexCode? mode count (16 * n + d) rest

/-- The character of so many hexadecimal digits. -/
def scalar? (mode : Mode) (count : Nat) (cs : List Char) : Option (Escape × List Char) :=
  (hexCode? mode count 0 cs).bind fun (n, rest) =>
    if n.isValidChar then some (.character n, rest) else none

/-! ### Letters and marks -/

/-- The control characters that have a letter. -/
def controls : List (Char × Nat) :=
  [('a', 0x07), ('t', 0x09), ('n', 0x0A), ('v', 0x0B), ('f', 0x0C), ('r', 0x0D)]

/-- What the character after a backslash stands for. -/
def simpleEscape? (c : Char) : Option Escape :=
  match controls.lookup c with
  | some n => some (.character n)
  | none =>
    if ['d', 's', 'w'].contains c then some (.kind false)
    else if ['D', 'S', 'W'].contains c then some (.kind true)
    else if ['A', 'z'].contains c then some (.place false)
    else if ['b', 'B', '<', '>'].contains c then some (.place true)
    else if c.toNat < 0x80 && !c.isAlphanum then some (.character c.toNat)
    else none

/-- The letters of the categories of characters, in lower case. -/
def categories : List Char := ['c', 'l', 'm', 'n', 'p', 's', 'z']

/-- A category by its letter. -/
def category? : List Char → Option (Escape × List Char)
  | [] => none
  | c :: rest => if categories.contains c.toLower then some (.category, rest) else none

/-! ### Reading -/

/-- What follows a backslash. -/
def escape? (mode : Mode) : List Char → Option (Escape × List Char)
  | [] => none
  | c :: rest =>
    if c = 'x' then (hexCode? mode 2 0 rest).map fun (n, last) => (.octet n, last)
    else if c = 'u' then scalar? mode 4 rest
    else if c = 'U' then scalar? mode 8 rest
    else if c = 'p' ∨ c = 'P' then category? (mode.skip rest)
    else (simpleEscape? c).map (·, rest)

/-- Whether an escape has a meaning in a mode. -/
def Escape.isAllowed (mode : Mode) : Escape → Bool
  | character _ => true
  | octet n => mode.unicode || n < 0x80
  | place atWord => !(atWord && mode.unicode)
  | kind isNegated => mode.unicode || !isNegated
  | category => mode.unicode

end Workbench.Pattern
