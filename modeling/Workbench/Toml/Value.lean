import Workbench.Number.Binary64

set_option autoImplicit false

/-!
# Values of documents

A document is a tree of tables, whose leaves are texts, numbers, truth values and moments. A table
knows how it came about, because that decides whether something may still be added to it.

## Main definitions

* `Workbench.Toml.Value` — a value.
* `Workbench.Toml.Fields` — the fields of a table, in order of their keys.
* `Workbench.Toml.Value.isRepresentable` — whether all numbers of a value can be looked at.

## Design

Numbers are exact. Whether one is too large, or no number at all, is found out when it is looked at,
and a document may hold such a number where nobody looks.
-/

namespace Workbench.Toml

/-- How a table came about. -/
inductive Origin where
  /-- It has a header of its own. -/
  | written
  /-- A header of a table inside it names it. -/
  | implied
  /-- A key with points names it. -/
  | dotted
  /-- It stands between braces. -/
  | inline
  deriving DecidableEq, Repr

/-- A number with a point or an exponent. -/
inductive Real where
  | nan
  | infinite (negative : Bool)
  /-- The number `digits * 10 ^ power`, perhaps with a minus sign. -/
  | decimal (negative : Bool) (digits : Nat) (power : Int)
  deriving DecidableEq, Repr

/-- A value of a document. -/
inductive Value where
  | text (s : String)
  | integer (n : Int)
  /-- A word that starts like an integer and stands for none. -/
  | illegible
  | real (x : Real)
  | boolean (b : Bool)
  /-- A date, a time or both. -/
  | moment
  | array (elements : List Value)
  | table (origin : Origin) (fields : List (String × Value))
  /-- The tables of one repeated header, oldest first. -/
  | tables (rows : List (List (String × Value)))

/-! ### Fields -/

/-- The fields of a table, with ascending keys. -/
abbrev Fields := List (String × Value)

namespace Fields

/-- The value of a key. -/
def get? (fields : Fields) (key : String) : Option Value := fields.lookup key

/-- The fields with a value for a key, in the place of the value that the key had. -/
def put (key : String) (value : Value) : Fields → Fields
  | [] => [(key, value)]
  | (k, v) :: rest =>
    if k = key then (key, value) :: rest
    else if key < k then (key, value) :: (k, v) :: rest
    else (k, v) :: put key value rest

end Fields

/-! ### Numbers that can be looked at -/

/-- The least number that an integer may be. -/
def leastInteger : Int := -Int.ofNat (Nat.pow 2 127)

/-- The greatest number that an integer may be. -/
def greatestInteger : Int := Int.ofNat (Nat.pow 2 128) - 1

/-- The binary number of a real one that is finite and in range. -/
def Real.binary? : Real → Option Binary64
  | .decimal _ digits power => Binary64.nearest? digits power
  | _ => none

/-- Whether a real number is in range. -/
def Real.isRepresentable : Real → Bool
  | .decimal _ digits power => (Binary64.nearest? digits power).isSome
  | _ => true

/-- The text of a real number in range. -/
def Real.display : Real → String
  | .nan => "NaN"
  | .infinite negative => if negative then "-inf" else "inf"
  | .decimal negative digits power =>
    (if negative then "-" else "") ++ ((Binary64.nearest? digits power).map Binary64.text).getD "inf"

mutual

/-- Whether all numbers of a value are legible and in range. -/
def Value.isRepresentable : Value → Bool
  | .integer n => leastInteger ≤ n && n ≤ greatestInteger
  | .illegible => false
  | .real x => x.isRepresentable
  | .array elements => areRepresentable elements
  | .table _ fields => fieldsRepresentable fields
  | .tables rows => rowsRepresentable rows
  | .text _ => true
  | .boolean _ => true
  | .moment => true

/-- Whether all numbers of some values are legible and in range. -/
def areRepresentable : List Value → Bool
  | [] => true
  | value :: values => value.isRepresentable && areRepresentable values

/-- Whether all numbers of some fields are legible and in range. -/
def fieldsRepresentable : List (String × Value) → Bool
  | [] => true
  | (_, value) :: fields => value.isRepresentable && fieldsRepresentable fields

/-- Whether all numbers of some tables are legible and in range. -/
def rowsRepresentable : List (List (String × Value)) → Bool
  | [] => true
  | row :: rows => fieldsRepresentable row && rowsRepresentable rows

end

end Workbench.Toml
