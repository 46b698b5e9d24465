import Workbench.FontTool.Run
import Workbench.FrameTool.Run
import Workbench.VersionTool.Run

set_option autoImplicit false

/-!
# Tools

The three tools behind one interface: arguments and surroundings give an end and the surroundings
afterwards, unless the arguments are refused.

## Main definitions

* `Workbench.Tool` — the tools.
* `Workbench.Surroundings` — what a run can see and change.
* `Workbench.Tool.run` — a run of a tool.

## Main results

* `Workbench.Surroundings.log_of_answers`, `Workbench.Surroundings.log_of_not_answers` — when a run has a
  log.

## Design

A tool that has read its arguments starts its log before it does anything else; only the version tool asks
for a version first. What reads the filter of the log and what takes printed text are parts of the
surroundings, since both may fail.
-/

namespace Workbench

/-- The tools. -/
inductive Tool where
  | frame | font | version
  deriving DecidableEq, Repr

/-- The name that a tool is called by. -/
def Tool.name : Tool → String
  | .frame => "send-frame"
  | .font => "font-to-array"
  | .version => "update-version"

/-- The tool of a name. -/
def Tool.named? (name : String) : Option Tool :=
  [Tool.frame, Tool.font, Tool.version].find? fun tool => tool.name == name

/-- What a run can see and change. -/
structure Surroundings where
  environment : Environment
  disk : Disk
  network : Network
  /-- What reads the filter of the log. -/
  reader : Filter.Reader := Filter.read
  /-- Where printed text goes. -/
  printer : Printer := .willing

namespace Surroundings

/-- The filter of the log. -/
def filter? (surroundings : Surroundings) (isVerbose : Bool) : Option Filter :=
  Filter.chosen surroundings.reader surroundings.environment isVerbose

/-- A run that starts its log before it does anything, and breaks off if there is no filter for it. -/
def log (surroundings : Surroundings) (isVerbose : Bool) (run : Finish × Surroundings) :
    Finish × Surroundings :=
  match surroundings.filter? isVerbose with
  | none => (.crash isVerbose .columns, surroundings)
  | some _ => run

variable {surroundings : Surroundings}

/-- A run with a filter for its log goes on. -/
theorem log_of_answers (h : surroundings.reader.Answers surroundings.environment) (isVerbose : Bool)
    (run : Finish × Surroundings) : surroundings.log isVerbose run = run := by
  unfold log
  cases hfilter : surroundings.filter? isVerbose with
  | none => exact absurd h (Filter.chosen_eq_none_iff.1 hfilter)
  | some filter => rfl

/-- A run without a filter for its log breaks off, and leaves the surroundings. -/
theorem log_of_not_answers (h : ¬ surroundings.reader.Answers surroundings.environment)
    (isVerbose : Bool) (run : Finish × Surroundings) :
    surroundings.log isVerbose run = (.crash isVerbose .columns, surroundings) := by
  have hfilter : surroundings.filter? isVerbose = none := Filter.chosen_eq_none_iff.2 h
  rw [log, hfilter]

/-- What a run in the surroundings reported, as text. -/
def report (surroundings : Surroundings) (finish : Finish) (time : String) : String :=
  finish.report surroundings.reader surroundings.environment time

end Surroundings

/-- A run of a tool, with the surroundings as it leaves them. -/
def Tool.run (tool : Tool) (arguments : List String) (surroundings : Surroundings) :
    Except CommandLine.Refusal (Finish × Surroundings) :=
  match tool with
  | .frame =>
    (FrameTool.Settings.read arguments).map fun settings =>
      let (finish, network) := FrameTool.run settings surroundings.network
      surroundings.log settings.verbose
        (FrameTool.print surroundings.printer finish, { surroundings with network })
  | .font =>
    (FontTool.Settings.read arguments).map fun settings =>
      let (finish, disk) := FontTool.run settings surroundings.printer surroundings.disk
      surroundings.log settings.verbose (finish, { surroundings with disk })
  | .version =>
    (VersionTool.Settings.read arguments).map fun settings =>
      let (finish, disk) :=
        VersionTool.run settings surroundings.reader surroundings.environment surroundings.disk
      (finish, { surroundings with disk })

end Workbench
