import Workbench.Disk.Folder
import Workbench.Version.Apply
import Workbench.VersionTool.Settings

set_option autoImplicit false

/-!
# The version tool

The tool writes a version into the lines of all targets. In a strict run a target whose line is
missing is an error, but only after all files have been patched. A run without a version is over before
there is a log; without a filter for its log a run breaks off.

## Main definitions

* `Workbench.VersionTool.judge` — whether a report is good enough.
* `Workbench.VersionTool.patch` — patching all targets.
* `Workbench.VersionTool.run` — a whole run.
* `Workbench.VersionTool.Settings.Logs` — runs that have a log when they come to need it.

## Main results

* `Workbench.VersionTool.run_of_logs`, `Workbench.VersionTool.run_of_not_logs` — a run with a log goes on,
  and one without it breaks off.
* `Workbench.VersionTool.related_run` — two runs are related as their ends are.
-/

namespace Workbench.VersionTool

/-- An event of the tool. -/
def event (level : Level) (message : String) : Note :=
  .event { level, component := .versionTool, message }

/-- The event that names the root. -/
def rooted (root : String) : Note := event .debug ("Repository root: " ++ root)

/-- The event that patching begins. -/
def patching (count : Nat) (version : String) : Note :=
  event .info ("🔧 Patching " ++ toString count ++ " target file(s) to " ++ version)

/-- The event that everything is done. -/
def finished (version : String) : Note := event .info ("✅ Version set to " ++ version)

/-- What the user is told who gives no version. -/
def usage : Note := .message "Usage: update-version <version>\n"

/-- Whether a report is good enough: in a strict run the first target without a line is a fault. -/
def judge (strict : Bool) (report : Report) : Except Fault Unit :=
  if strict then
    match report.find? fun (_, outcome) => outcome == .leadNotFound with
    | some (target, _) => .error (.leadNotFound target.path target.lead)
    | none => .ok ()
  else .ok ()

/-- Patches all targets in the files below the root. -/
def patch (settings : Settings) (version : String) (targets : List Target) (disk : Disk) :
    Work Disk Unit :=
  let work := applyVersion ({ base := settings.root } : Folder).store version targets disk
  { work with result := work.result.bind (judge settings.strict) }

/-- The end of a run. -/
def ending (settings : Settings) (status : Nat) (notes : List Note) : Finish :=
  { status, notes, isVerbose := settings.showsMore, layout := settings.layout }

/-- The end of a run that fails. -/
def failure (settings : Settings) (notes : List Note) (fault : Fault) : Finish :=
  ending settings fault.failureStatus
    (notes ++ [fault.failing .versionTool "update-version", fault.tell, fault.advise])

/-- A run with settings that passed their check. -/
def runChecked (settings : Settings) (version : String) (environment : Environment) (disk : Disk)
    (start : List Note) : Finish × Disk :=
  match settings.resolve environment disk with
  | .error fault => (failure settings start fault, disk)
  | .ok targets =>
    let work := patch settings version targets disk
    let notes := start ++ patching targets.length version :: work.events.map .event
    match work.result with
    | .error fault => (failure settings notes fault, work.after)
    | .ok () => (ending settings 0 (notes ++ [finished version]), work.after)

/-- A run with a version and a log. -/
def runLogged (settings : Settings) (version : String) (environment : Environment) (disk : Disk) :
    Finish × Disk :=
  let start := [announcing .versionTool settings.describe]
  match settings.check with
  | .error fault =>
    (ending settings 1 (start ++ [fault.rejecting .versionTool, fault.tell]), disk)
  | .ok () => runChecked settings version environment disk (start ++ [rooted settings.root])

/-- A whole run, with the disk as it leaves it. -/
def run (settings : Settings) (reader : Filter.Reader) (environment : Environment) (disk : Disk) :
    Finish × Disk :=
  match settings.version with
  | none => (ending settings 1 [usage], disk)
  | some version =>
    match Filter.chosen reader environment settings.showsMore with
    | none => (.crash settings.showsMore settings.layout, disk)
    | some _ => runLogged settings version environment disk

/-! ### Logs -/

/-- A run that has a version has a filter for its log too. -/
def Settings.Logs (settings : Settings) (reader : Filter.Reader) (environment : Environment) : Prop :=
  settings.version ≠ none → reader.Answers environment

variable {settings : Settings} {reader : Filter.Reader} {environment : Environment} {disk : Disk}

/-- A run that has a version and a log goes on with both. -/
theorem run_of_logs {version : String} (hv : settings.version = some version)
    (hlogs : settings.Logs reader environment) :
    run settings reader environment disk = runLogged settings version environment disk := by
  have hanswers : reader.Answers environment := hlogs (by simp [hv])
  rw [run, hv]
  cases hfilter : Filter.chosen reader environment settings.showsMore with
  | none => exact absurd hanswers (Filter.chosen_eq_none_iff.1 hfilter)
  | some filter => rfl

/-- **A run without a log breaks off** before it has done anything. -/
theorem run_of_not_logs (hlogs : ¬ settings.Logs reader environment) :
    run settings reader environment disk = (.crash settings.showsMore settings.layout, disk) := by
  obtain ⟨hversion, hanswers⟩ := Classical.not_imp.1 hlogs
  obtain ⟨version, hv⟩ := Option.ne_none_iff_exists'.1 hversion
  rw [run, hv]
  simp only [Filter.chosen_eq_none_iff.2 hanswers]

/-- **Two runs are related as their ends are**, if they have the same version, and a filter for their log
both or neither. There are three ends: without a version, without a log, and with both. -/
theorem related_run {r : Finish × Disk → Finish × Disk → Prop} {other : Settings}
    {environment' : Environment} (hversion : settings.version = other.version)
    (hanswers : reader.Answers environment ↔ reader.Answers environment')
    (husage : r (ending settings 1 [usage], disk) (ending other 1 [usage], disk))
    (hcrash : r (.crash settings.showsMore settings.layout, disk)
      (.crash other.showsMore other.layout, disk))
    (hlogged : ∀ version, r (runLogged settings version environment disk)
      (runLogged other version environment' disk)) :
    r (run settings reader environment disk) (run other reader environment' disk) := by
  have hsame : settings.Logs reader environment ↔ other.Logs reader environment' := by
    rw [Settings.Logs, Settings.Logs, hversion, hanswers]
  by_cases hlogs : settings.Logs reader environment
  · rcases Option.eq_none_or_eq_some settings.version with hv | ⟨version, hv⟩
    · rw [run, run, ← hversion, hv]
      exact husage
    · rw [run_of_logs hv hlogs, run_of_logs (hversion.symm.trans hv) (hsame.1 hlogs)]
      exact hlogged version
  · rw [run_of_not_logs hlogs, run_of_not_logs (mt hsame.2 hlogs)]
    exact hcrash

end Workbench.VersionTool
