import Workbench.Disk.Tree
import Workbench.Environment
import Workbench.Toml.Reading
import Workbench.Version.Decoding
import Workbench.Version.TargetList

set_option autoImplicit false

/-!
# Documents of targets

A list of targets can be kept in a document. References to the environment are replaced in the text of
the document before it is read; the targets that it names are then checked.

## Main definitions

* `Workbench.Rejection` — why a document gives no targets.
* `Workbench.targetsOfText` — the targets of a document.
* `Workbench.targetsOfFile` — the targets of a document in a file.
-/

namespace Workbench

/-- Why a document gives no targets. -/
inductive Rejection where
  /-- The text is no document of targets. -/
  | document (complaint : Complaint)
  /-- The document cannot be had, or its targets fail their checks. -/
  | other (fault : Fault)
  deriving DecidableEq, Repr

/-- The fault that a rejection is. -/
def Rejection.fault : Rejection → Fault
  | document complaint => .settingsPart "toml_parsing" ("TOML parsing error: " ++ complaint.summary)
  | other fault => fault

/-- The targets that a text names, as they stand there. -/
def decodeTargets (cs : List Char) : Except Complaint (List Target) :=
  match Toml.read? cs with
  | some fields => targetsOfFields fields
  | none => .error .unreadable

/-- The targets of a document. -/
def targetsOfText (environment : Environment) (text : String) : Except Rejection (List Target) :=
  match decodeTargets (environment.substitute text.toList) with
  | .error complaint => .error (.document complaint)
  | .ok targets =>
    match checkTargets targets with
    | .error fault => .error (.other fault)
    | .ok () => .ok targets

/-- The targets of a document in a file. -/
def targetsOfFile (environment : Environment) (disk : Disk) (path : String) :
    Except Rejection (List Target) :=
  match disk.readText path with
  | .error cause => .error (.other (.file cause))
  | .ok text => targetsOfText environment text

end Workbench
