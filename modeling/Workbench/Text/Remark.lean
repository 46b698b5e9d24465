import Workbench.Text.Digit

set_option autoImplicit false

/-!
# Remarks

A remark about a text may end with a place in it, its line and its column. The place is kept as two
numbers, so that it is always written without superfluous zeros; line zero means no place at all.

## Main definitions

* `Workbench.Text.Remark` — a remark.
* `Workbench.Text.Remark.ofString` — the remark that a text is written for.
* `Workbench.Text.Remark.display` — its text.
-/

namespace Workbench.Text

/-! ### The last mark of a text -/

/-- The parts before and after the last occurrence of a mark. -/
def cutLast? (mark : List Char) : List Char → Option (List Char × List Char)
  | [] => none
  | c :: rest =>
    match cutLast? mark rest with
    | some (before, after) => some (c :: before, after)
    | none =>
      if mark.isPrefixOf (c :: rest) then some ([], (c :: rest).drop mark.length) else none

/-! ### Remarks -/

/-- A remark about a text. -/
structure Remark where
  detail : String
  /-- The line that the remark is about; zero if it is about none. -/
  line : Nat := 0
  column : Nat := 0
  deriving DecidableEq, Repr

namespace Remark

/-- What stands before a line. -/
def lineMark : List Char := " at line ".toList

/-- What stands before a column. -/
def columnMark : List Char := " column ".toList

/-- The greatest line and column. -/
def farthest : Nat := Nat.pow 2 64 - 1

/-- The number that some digits are written for. -/
def number? (digits : List Char) : Option Nat :=
  if digits.all isDecimal then (readWord 10 farthest digits).toOption else none

/-- The line and the column that a text consists of. -/
def place? (cs : List Char) : Option (Nat × Nat) := do
  let rest := cs.dropWhile isDecimal
  if columnMark.isPrefixOf rest then
    let line ← number? (cs.takeWhile isDecimal)
    let column ← number? (rest.drop columnMark.length)
    pure (line, column)
  else none

/-- The remark that a text is written for. -/
def ofString (text : String) : Remark :=
  match cutLast? lineMark text.toList with
  | none => { detail := text }
  | some (before, after) =>
    match place? after with
    | none => { detail := text }
    | some (line, column) => { detail := String.ofList before, line, column }

/-- The text of a remark. -/
def display (remark : Remark) : String :=
  if remark.line = 0 then remark.detail
  else
    remark.detail ++ " at line " ++ toString remark.line ++ " column " ++ toString remark.column

end Remark

end Workbench.Text
