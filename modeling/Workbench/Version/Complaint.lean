import Workbench.Text.Quoted
import Workbench.Toml.Value

set_option autoImplicit false

/-!
# Complaints about documents

What is wrong with a document of targets: it cannot be read at all, or it has another shape than a
list of targets. A complaint about the shape says what was found and what belongs there.

## Main definitions

* `Workbench.Complaint` — what is wrong.
* `Workbench.Complaint.wording` — its text.
* `Workbench.Complaint.summary` — the line that is reported.
-/

namespace Workbench

/-- What belongs at a place of a document. -/
inductive Expected where
  | sequence | text | target
  deriving DecidableEq, Repr

/-- The name of what belongs at a place. -/
def Expected.name : Expected → String
  | .sequence => "a sequence"
  | .text => "a string"
  | .target => "struct VersionTarget"

/-- What is wrong with a document. -/
inductive Complaint where
  /-- It cannot be read, or it holds something that cannot be looked at. -/
  | unreadable
  /-- A field is absent. -/
  | missingField (name : String)
  /-- A style has a name that is not known. -/
  | unknownStyle (name : String)
  /-- A style is neither a name nor a table. -/
  | styleType
  /-- A style is a table with no entry. -/
  | styleEmpty
  /-- A style is a table with several entries. -/
  | styleCrowded
  /-- Something else than what belongs there. -/
  | wrongType (found : String) (expected : Expected)
  /-- A target in short form has too few parts. -/
  | tooShort (count : Nat)
  deriving DecidableEq, Repr

namespace Complaint

/-- The full text of a complaint. -/
def wording : Complaint → String
  | unreadable => "syntax"
  | missingField name => "missing field `" ++ name ++ "`"
  | unknownStyle name => "unknown variant `" ++ name ++ "`, expected `quoted` or `bare`"
  | styleType => "wanted string or table"
  | styleEmpty => "wanted exactly 1 element, found 0 elements"
  | styleCrowded => "wanted exactly 1 element, more than 1 element"
  | wrongType found expected => "invalid type: " ++ found ++ ", expected " ++ expected.name
  | tooShort count =>
    "invalid length " ++ toString count ++ ", expected " ++ Expected.target.name
      ++ " with 4 elements"

/-- How the last line of a report starts if it tells what is wrong with the shape. -/
def openings : List String :=
  ["missing field ", "unknown variant ", "invalid type: ", "invalid length ", "wanted "]

/-- What follows the last line feed of a text. -/
def lastLine (cs : List Char) : List Char := (cs.reverse.takeWhile (· != '\n')).reverse

/-- The line that is reported: the last one, if it tells what is wrong with the shape. -/
def summary (complaint : Complaint) : String :=
  let line := lastLine complaint.wording.toList
  if openings.any fun opening => opening.toList.isPrefixOf line then String.ofList line
  else unreadable.wording

end Complaint

/-! ### What is found -/

/-- An integer as it is named where something else belongs. -/
def describeInteger (n : Int) : String :=
  let text := "integer `" ++ toString n ++ "`"
  if -Int.ofNat (Nat.pow 2 63) ≤ n ∧ n < Int.ofNat (Nat.pow 2 64) then text
  else if n < Int.ofNat (Nat.pow 2 127) then text ++ " as i128"
  else text ++ " as u128"

/-- A value as it is named where something else belongs. A number that is not legible or out of range
cannot be looked at and has no name. -/
def describe? : Toml.Value → Option String
  | .text s => some ("string " ++ Text.quoted s)
  | .integer n =>
    if (Toml.Value.integer n).isRepresentable then some (describeInteger n) else none
  | .illegible => none
  | .real x =>
    if x.isRepresentable then some ("floating point `" ++ x.display ++ "`") else none
  | .boolean b => some ("boolean `" ++ (if b then "true" else "false") ++ "`")
  | .array _ => some "sequence"
  | .tables _ => some "sequence"
  | .table .. => some "map"
  | .moment => some "map"

/-- The complaint about a value where something else belongs. -/
def wrongType (value : Toml.Value) (expected : Expected) : Complaint :=
  match describe? value with
  | some found => .wrongType found expected
  | none => .unreadable

end Workbench
