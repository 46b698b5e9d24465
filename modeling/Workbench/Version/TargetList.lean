import Workbench.Check
import Workbench.Version.Target

set_option autoImplicit false

/-!
# Lists of targets

What a list of targets must satisfy before it is used: there is a target, every path can be a path,
and every lead can stand at the start of a line.

## Main definitions

* `Workbench.Target.check` — the check of one target, by its place in the list.
* `Workbench.checkTargets` — the check of a list.
-/

namespace Workbench

/-- A field of the target at a place of a list. -/
def Target.fieldName (index : Nat) (field : String) : String :=
  "targets[" ++ toString index ++ "]." ++ field

/-- The check of the target at a place of a list. -/
def Target.check (index : Nat) (target : Target) : Except Fault Unit := do
  Check.path (fieldName index "path") target.path
  Check.notBlank (fieldName index "prefix") target.lead
  if target.lead.toList.contains '\n' then
    .error (.badValue (fieldName index "prefix") target.lead "Prefix must be a single line")
  else .ok ()

/-- The check of the targets from a place on. -/
def checkTargetsFrom : Nat → List Target → Except Fault Unit
  | _, [] => .ok ()
  | index, target :: targets => do
    target.check index
    checkTargetsFrom (index + 1) targets

/-- The check of a list of targets. -/
def checkTargets (targets : List Target) : Except Fault Unit :=
  if targets.isEmpty then
    .error (.settingsPart "targets" "at least one [[targets]] entry is required")
  else checkTargetsFrom 0 targets

end Workbench
