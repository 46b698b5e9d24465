import Workbench.Toml.Value

set_option autoImplicit false

/-!
# Assembling tables

A document states its tables piece by piece: assignments of values to keys, and headers that open a
table below the ones before. This module puts the pieces together and refuses those that would write
something twice or add to what is complete.

## Main definitions

* `Workbench.Toml.Fields.assign` — an assignment to a key with points.
* `Workbench.Toml.Header`, `Workbench.Toml.Section` — a header with the assignments after it.
* `Workbench.Toml.Section.attach` — a section put into the document.
* `Workbench.Toml.assemble` — the document of its pieces.

## Design

A table between braces is complete. A table with a header of its own is open for further headers
below it, but not for keys with points that lead into it from elsewhere. The last table of a repeated
header stands for the whole.
-/

namespace Workbench.Toml

/-- A value for a key with points, which is a path of keys. -/
abbrev Assignment := List String × Value

namespace Fields

/-- The fields with a value for a key that has none. -/
def insertNew (key : String) (value : Value) (fields : Fields) : Option Fields :=
  if (fields.get? key).isSome then none else some (fields.put key value)

/-- The last of the tables of a repeated header, changed. -/
def changeLast (change : Fields → Option Fields) (rows : List Fields) : Option (List Fields) := do
  let row ← rows.getLast?
  let changed ← change row
  pure (rows.dropLast ++ [changed])

/-- Assigns a value to a path of keys. The tables on the way are made if they are missing; the table
of the last key takes it only if `takes` holds, that is, unless it belongs to a header. -/
def assign (takes : Bool) : List String → Value → Fields → Option Fields
  | [], _, _ => none
  | [key], value, fields => if takes then fields.insertNew key value else none
  | key :: path, value, fields =>
    match fields.get? key with
    | none =>
      (assign true path value []).map fun inner => fields.put key (.table .dotted inner)
    | some (.table .dotted inner) =>
      (assign true path value inner).map fun changed => fields.put key (.table .dotted changed)
    | some (.table .implied inner) =>
      (assign false path value inner).map fun changed => fields.put key (.table .implied changed)
    | some (.tables rows) =>
      (changeLast (assign false path value) rows).map fun changed =>
        fields.put key (.tables changed)
    | some _ => none

/-- Assigns several values, one after the other. -/
def assignAll (assignments : List Assignment) (fields : Fields) : Option Fields :=
  assignments.foldlM (fun fields (path, value) => fields.assign true path value) fields

/-- Changes the table that the keys of a header lead to. The tables on the way are made if they are
missing. -/
def changeAt (change : Fields → Option Fields) : List String → Fields → Option Fields
  | [], fields => change fields
  | key :: path, fields =>
    match fields.get? key with
    | none => (changeAt change path []).map fun inner => fields.put key (.table .implied inner)
    | some (.table .inline _) => none
    | some (.table origin inner) =>
      (changeAt change path inner).map fun changed => fields.put key (.table origin changed)
    | some (.tables rows) =>
      (changeLast (changeAt change path) rows).map fun changed => fields.put key (.tables changed)
    | some _ => none

end Fields

/-! ### Headers and sections -/

/-- What opens a table. -/
inductive Header where
  /-- The only table of its name. -/
  | single (path : List String)
  /-- One more table of its name. -/
  | repeated (path : List String)
  deriving DecidableEq, Repr

/-- A header with the assignments up to the next one. -/
structure Section where
  header : Header
  assignments : List Assignment

namespace Section

/-- Opens the only table of a name, which no header opened before. -/
def attachSingle (assignments : List Assignment) (key : String) (fields : Fields) :
    Option Fields :=
  match fields.get? key with
  | none => (Fields.assignAll assignments []).map fun inner => fields.put key (.table .written inner)
  | some (.table .implied inner) =>
    (Fields.assignAll assignments inner).map fun changed => fields.put key (.table .written changed)
  | some _ => none

/-- Opens one more table of a name. -/
def attachRepeated (assignments : List Assignment) (key : String) (fields : Fields) :
    Option Fields :=
  match fields.get? key with
  | none => (Fields.assignAll assignments []).map fun row => fields.put key (.tables [row])
  | some (.tables rows) =>
    (Fields.assignAll assignments []).map fun row => fields.put key (.tables (rows ++ [row]))
  | some _ => none

/-- Puts a section into the document. -/
def attach (part : Section) (fields : Fields) : Option Fields :=
  match part.header with
  | .single path =>
    fields.changeAt (attachSingle part.assignments (path.getLast?.getD "")) path.dropLast
  | .repeated path =>
    fields.changeAt (attachRepeated part.assignments (path.getLast?.getD "")) path.dropLast

end Section

/-! ### Statements -/

/-- A statement of a document. -/
inductive Statement where
  | opens (header : Header)
  | assigns (path : List String) (value : Value)

/-- The assignments before the first header, and the sections. -/
def sections : List Statement → List Assignment × List Section
  | [] => ([], [])
  | .assigns path value :: rest =>
    let (assignments, parts) := sections rest
    ((path, value) :: assignments, parts)
  | .opens header :: rest =>
    let (assignments, parts) := sections rest
    ([], { header, assignments } :: parts)

/-- The document of its statements. -/
def assemble (statements : List Statement) : Option Fields := do
  let (assignments, parts) := sections statements
  let start ← Fields.assignAll assignments []
  parts.foldlM (fun fields part => part.attach fields) start

end Workbench.Toml
