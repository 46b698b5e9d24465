import Workbench.Log
import Workbench.Text.Quoted
import Workbench.Version.Patch
import Workbench.Version.Store

set_option autoImplicit false

/-!
# Applying a version to targets

The targets are patched one after the other. Each file is read once for each of its targets and
written only if its text changed; the first call that fails ends the run, with everything before it
done.

## Main definitions

* `Workbench.Target.apply` — one target: read, patch, write if changed, report.
* `Workbench.applyVersion` — all targets in order.
-/

namespace Workbench

/-! ### What is reported -/

/-- What is reported for a target whose step was completed. -/
def Target.event (target : Target) (version : String) : Outcome → Event
  | .updated line =>
    { level := .info, component := .patcher, message := "✏️ " ++ target.path ++ ": " ++ line }
  | .unchanged _ =>
    { level := .info
      component := .patcher
      message := target.path ++ " already at " ++ version }
  | .leadNotFound =>
    { level := .warn
      component := .patcher
      message := "⚠️ " ++ target.path ++ ": no line starts with " ++ Text.quoted target.lead
        ++ ", file left unchanged" }

/-! ### Steps -/

variable {σ : Type}

/-- The result of work on a store: an answer or a fault, what was reported, and the state. -/
structure Work (σ α : Type) where
  result : Except Fault α
  events : List Event
  after : σ

/-- The call that a patched text asks for: a write exactly if the text changed. -/
def TextStore.save (store : TextStore σ) (path text : String) :
    Outcome → σ → Except Fault Unit × σ
  | .updated _, state => store.write path text state
  | .unchanged _, state => (.ok (), state)
  | .leadNotFound, state => (.ok (), state)

/-- Patches the file of one target. -/
def Target.apply (store : TextStore σ) (version : String) (target : Target) (state : σ) :
    Work σ Outcome :=
  match store.read target.path state with
  | (.error fault, after) => { result := .error fault, events := [], after }
  | (.ok text, afterRead) =>
    let (patched, outcome) := target.patch version text
    match store.save target.path patched outcome afterRead with
    | (.error fault, after) => { result := .error fault, events := [], after }
    | (.ok (), after) =>
      { result := .ok outcome, events := [target.event version outcome], after }

/-- A report: every target with what became of its line, in order. -/
abbrev Report := List (Target × Outcome)

/-- Patches the files of all targets in order, up to the first call that fails. -/
def applyVersion (store : TextStore σ) (version : String) : List Target → σ → Work σ Report
  | [], state => { result := .ok [], events := [], after := state }
  | target :: targets, state =>
    let first := target.apply store version state
    match first.result with
    | .error fault => { first with result := .error fault }
    | .ok outcome =>
      let rest := applyVersion store version targets first.after
      { result := rest.result.map ((target, outcome) :: ·)
        events := first.events ++ rest.events
        after := rest.after }

end Workbench
