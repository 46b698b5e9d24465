import Mathlib.Data.List.Basic
import Mathlib.Tactic.Lemma
import Workbench.Proofs.Environment.References
import Workbench.Tool

set_option relaxedAutoImplicit false
set_option autoImplicit false

/-!
# Logging and the work of the tools

What a tool reports, and how, is chosen by two switches and by one name in the environment. None of them
has an influence on what the tool does, unless a document of targets looks that name up, or what reads the
filter in the environment breaks off, and the tool with it.

## Main definitions

* `Workbench.Configuration` — the settings of one of the tools.
* `Workbench.Configuration.unlogged` — the settings without the choices about reports.
* `Workbench.Effect` — what a run does, apart from its reports.
* `Workbench.Finish.logLines` — the lines of the events of a run that are shown.

## Main results

* `Workbench.Configuration.run_eq` — a run with given choices about reports, from one without them.
* `Workbench.Configuration.effect_of_not_answers` — what a run does that breaks off.
* `Workbench.VersionTool.resolve_congr` — what the environment has to do with targets.
* `Workbench.Finish.report_eq_join` — the lines of the events that are shown are what is printed of them.
* `Workbench.Tool.run_ignores_logging` — reports have no influence on the effect of a run, and who wants
  more of them sees no less.
-/

namespace Workbench

open CommandLine (Refusal)

/-! ### Choices about reports -/

/-- The end of a run with other choices about its reports: other settings are announced by the first
event, and the reports are shown as is wanted. -/
def Finish.withLogging (finish : Finish) (announced : Note) (isVerbose : Bool) (layout : Layout) :
    Finish :=
  { finish with
    notes := match finish.notes with
      | .event _ :: notes => announced :: notes
      | notes => notes
    isVerbose
    layout }

/-- The settings without the choice of the events that are shown. -/
def FrameTool.Settings.unlogged (settings : FrameTool.Settings) : FrameTool.Settings :=
  { settings with verbose := false }

/-- The settings without the choice of the events that are shown. -/
def FontTool.Settings.unlogged (settings : FontTool.Settings) : FontTool.Settings :=
  { settings with verbose := false }

/-- The settings without the choices of the events that are shown and of their layout. -/
def VersionTool.Settings.unlogged (settings : VersionTool.Settings) : VersionTool.Settings :=
  { settings with logJson := false, verbose := false }

/-- Choices about reports have no influence on what is printed. -/
lemma FrameTool.print_withLogging (printer : Printer) (finish : Finish) (announced : Note)
    (isVerbose : Bool) (layout : Layout) :
    FrameTool.print printer (finish.withLogging announced isVerbose layout) =
      (FrameTool.print printer finish).withLogging announced isVerbose layout := by
  obtain ⟨status, output, cut, notes, isVerbose', layout'⟩ := finish
  unfold FrameTool.print Finish.withLogging
  dsimp only
  split
  · rfl
  · cases printer output.toUTF8.toList with
    | none => rfl
    | some refusal =>
      -- what is left out is the last thing, and what is announced the first one
      rcases notes with _ | ⟨note, _ | ⟨second, rest⟩⟩
      · rfl
      · cases note <;> rfl
      · cases note <;> rfl

/-- A run of the frame tool, from one without choices about reports. -/
lemma FrameTool.run_eq (settings : FrameTool.Settings) (network : Network) :
    FrameTool.run settings network =
      ((FrameTool.run settings.unlogged network).1.withLogging
          (announcing .frameTool settings.describe) settings.verbose .columns,
        (FrameTool.run settings.unlogged network).2) := by
  have hcheck : settings.unlogged.check = settings.check := rfl
  have hdry : settings.unlogged.dryRun = settings.dryRun := rfl
  have hshow : FrameTool.showOnly settings.unlogged = FrameTool.showOnly settings := rfl
  have htransmit : FrameTool.transmit settings.unlogged = FrameTool.transmit settings := rfl
  unfold FrameTool.run
  rw [hcheck, hdry, hshow, htransmit]
  cases settings.check with
  | error fault => rfl
  | ok _ =>
    dsimp only
    generalize (if settings.dryRun = true then _ else _ : FrameTool.Attempt) = attempt
    obtain ⟨fault | frame, output, notes, after⟩ := attempt <;> rfl

/-- A run of the font tool, from one without choices about reports. -/
lemma FontTool.run_eq (settings : FontTool.Settings) (printer : Printer) (disk : Disk) :
    FontTool.run settings printer disk =
      ((FontTool.run settings.unlogged printer disk).1.withLogging
          (announcing .fontTool settings.describe) settings.verbose .columns,
        (FontTool.run settings.unlogged printer disk).2) := by
  have hcheck : settings.unlogged.check = settings.check := rfl
  have hfont : settings.unlogged.font = settings.font := rfl
  have hsize : settings.unlogged.pixelSize = settings.pixelSize := rfl
  have houtput : settings.unlogged.output = settings.output := rfl
  have hlisting : FontTool.listing settings.unlogged = FontTool.listing settings := rfl
  unfold FontTool.run FontTool.deliver
  rw [hcheck, hfont, hsize, hlisting, houtput]
  cases settings.check with
  | error fault => rfl
  | ok _ =>
    dsimp only
    cases disk.openFont settings.font settings.pixelSize with
    | error cause => rfl
    | ok font =>
      dsimp only
      obtain ⟨cause | text, events⟩ := FontTool.listing settings font
      · rfl
      cases settings.output with
      | none =>
        dsimp only
        cases printer text.toUTF8.toList <;> rfl
      | some path =>
        dsimp only
        cases disk.writeText path text <;> rfl

/-- A run of the version tool, from one without choices about reports. -/
lemma VersionTool.run_eq (settings : VersionTool.Settings) (reader : Filter.Reader)
    (environment : Environment) (disk : Disk) :
    VersionTool.run settings reader environment disk =
      ((VersionTool.run settings.unlogged reader environment disk).1.withLogging
          (announcing .versionTool settings.describe) settings.showsMore settings.layout,
        (VersionTool.run settings.unlogged reader environment disk).2) := by
  let related (run plain : Finish × Disk) : Prop :=
    run = (plain.1.withLogging (announcing .versionTool settings.describe) settings.showsMore
      settings.layout, plain.2)
  refine VersionTool.related_run (r := related) rfl Iff.rfl rfl rfl fun version => ?_
  have hcheck : settings.unlogged.check = settings.check := rfl
  have hresolve : settings.unlogged.resolve = settings.resolve := rfl
  have hpatch : VersionTool.patch settings.unlogged = VersionTool.patch settings := rfl
  unfold related VersionTool.runLogged VersionTool.runChecked
  rw [hcheck, hresolve, hpatch]
  cases settings.check with
  | error fault => rfl
  | ok _ =>
    dsimp only
    cases settings.resolve environment disk with
    | error fault => rfl
    | ok targets =>
      dsimp only
      obtain ⟨fault | _, events, after⟩ := VersionTool.patch settings version targets disk <;> rfl

/-! ### Lookups -/

/-- **The version tool finds the same targets** in environments that differ in the entries of one name
only, if its document refers to no name that finds them. -/
theorem VersionTool.resolve_congr {settings : VersionTool.Settings} {environment other : Environment}
    {disk : Disk} {name : String} (hname : '=' ∉ name.toList)
    (hsame : environment.without name = other.without name)
    (h : ∀ path text, settings.targets = some path → disk.readText path = .ok text →
      ∀ reference ∈ Environment.references text.toList, ¬ Environment.Finds reference name) :
    settings.resolve environment disk = settings.resolve other disk := by
  unfold VersionTool.Settings.resolve
  cases hdocument : settings.targets with
  | none => rfl
  | some path =>
    dsimp only
    unfold targetsOfFile
    cases htext : disk.readText path with
    | error cause => rfl
    | ok text =>
      have hvalues : ∀ reference ∈ Environment.references text.toList,
          environment.get? (String.ofList reference) = other.get? (String.ofList reference) := by
        intro reference hm
        have hfinds : ¬ Environment.Finds (String.ofList reference).toList name := by
          rw [String.toList_ofList]
          exact h path text hdocument htext reference hm
        rw [← Environment.get?_without hname hfinds, hsame, Environment.get?_without hname hfinds]
      dsimp only
      rw [targetsOfText, targetsOfText, Environment.substitute_congr hvalues]

/-- The environment matters to the version tool by the targets that it finds in it, and by whether there
is a filter for the log. -/
lemma VersionTool.run_congr {settings : VersionTool.Settings} {reader : Filter.Reader}
    {environment other : Environment} {disk : Disk}
    (h : settings.resolve environment disk = settings.resolve other disk)
    (hanswers : reader.Answers environment ↔ reader.Answers other) :
    VersionTool.run settings reader environment disk = VersionTool.run settings reader other disk := by
  refine VersionTool.related_run rfl hanswers rfl rfl fun version => ?_
  unfold VersionTool.runLogged VersionTool.runChecked
  rw [h]

/-! ### Configurations -/

/-- The settings of one of the tools. -/
inductive Configuration where
  | frame (settings : FrameTool.Settings)
  | font (settings : FontTool.Settings)
  | version (settings : VersionTool.Settings)
  deriving DecidableEq

/-- The configuration that arguments give. -/
def Tool.configure (tool : Tool) (arguments : List String) : Except Refusal Configuration :=
  match tool with
  | .frame => (FrameTool.Settings.read arguments).map .frame
  | .font => (FontTool.Settings.read arguments).map .font
  | .version => (VersionTool.Settings.read arguments).map .version

namespace Configuration

/-- A run with settings. -/
def run (configuration : Configuration) (before : Surroundings) : Finish × Surroundings :=
  match configuration with
  | frame settings =>
    let (finish, network) := FrameTool.run settings before.network
    before.log settings.verbose (FrameTool.print before.printer finish, { before with network })
  | font settings =>
    let (finish, disk) := FontTool.run settings before.printer before.disk
    before.log settings.verbose (finish, { before with disk })
  | version settings =>
    let (finish, disk) := VersionTool.run settings before.reader before.environment before.disk
    (finish, { before with disk })

/-- Whether more events are wanted. -/
def isVerbose : Configuration → Bool
  | frame settings => settings.verbose
  | font settings => settings.verbose
  | version settings => settings.verbose

/-- Whether events are wanted as JSON, which only the version tool offers. -/
def logsJson : Configuration → Bool
  | version settings => settings.logJson
  | _ => false

/-- The settings without the choices about reports. -/
def unlogged : Configuration → Configuration
  | frame settings => frame settings.unlogged
  | font settings => font settings.unlogged
  | version settings => version settings.unlogged

/-- The event that announces settings. -/
def announced : Configuration → Event
  | frame settings =>
    { level := .debug, component := .frameTool, message := "CLI config: " ++ settings.describe }
  | font settings =>
    { level := .debug, component := .fontTool, message := "CLI config: " ++ settings.describe }
  | version settings =>
    { level := .debug, component := .versionTool, message := "CLI config: " ++ settings.describe }

/-- Whether more events are shown. -/
def showsMore : Configuration → Bool
  | frame settings => settings.verbose
  | font settings => settings.verbose
  | version settings => settings.showsMore

/-- How events are laid out. -/
def layout : Configuration → Layout
  | version settings => settings.layout
  | _ => .columns

/-- More events are shown if they are wanted, but not as JSON. -/
lemma showsMore_eq (configuration : Configuration) :
    configuration.showsMore = (configuration.isVerbose && !configuration.logsJson) := by
  cases configuration <;> simp [showsMore, isVerbose, logsJson, VersionTool.Settings.showsMore]

/-- Events are laid out in columns, unless they are wanted as JSON. -/
lemma layout_eq (configuration : Configuration) :
    configuration.layout = if configuration.logsJson then .json else .columns := by
  cases configuration <;> rfl

/-- Choices about reports have no influence on whether a run has a log. -/
lemma log_withLogging (before : Surroundings) (finish : Finish) (after : Surroundings)
    (announced : Note) (isVerbose : Bool) :
    before.log isVerbose (finish.withLogging announced isVerbose .columns, after) =
      ((before.log false (finish, after)).1.withLogging announced isVerbose .columns,
        (before.log false (finish, after)).2) := by
  by_cases hanswers : before.reader.Answers before.environment
  · rw [Surroundings.log_of_answers hanswers, Surroundings.log_of_answers hanswers]
  · rw [Surroundings.log_of_not_answers hanswers, Surroundings.log_of_not_answers hanswers]
    rfl

/-- **A run with given choices about reports**, from one without them: only what is announced, which
events are shown, and how they are laid out is different. -/
theorem run_eq (configuration : Configuration) (before : Surroundings) :
    configuration.run before =
      ((configuration.unlogged.run before).1.withLogging (.event configuration.announced)
          configuration.showsMore configuration.layout,
        (configuration.unlogged.run before).2) := by
  cases configuration with
  | frame settings =>
    rw [run, FrameTool.run_eq]
    dsimp only
    rw [FrameTool.print_withLogging]
    exact log_withLogging before _ _ _ settings.verbose
  | font settings =>
    rw [run, FontTool.run_eq]
    exact log_withLogging before _ _ _ settings.verbose
  | version settings =>
    exact congrArg (fun run : Finish × Disk => (run.1, { before with disk := run.2 }))
      (VersionTool.run_eq settings before.reader before.environment before.disk)

/-- A run starts its log: only the version tool does not, without a version. -/
def StartsLog : Configuration → Prop
  | version settings => settings.version ≠ none
  | _ => True

/-- A run looks up the entries of a name: it reads a document of targets that refers to a name which
finds them. -/
def LooksUp (configuration : Configuration) (disk : Disk) (name : String) : Prop :=
  ∃ settings path text reference, configuration = version settings ∧ settings.targets = some path ∧
    disk.readText path = .ok text ∧ reference ∈ Environment.references text.toList ∧
    Environment.Finds reference name

end Configuration

/-- A run of a tool is a run with the configuration that its arguments give. -/
lemma Tool.run_eq (tool : Tool) (arguments : List String) (before : Surroundings) :
    tool.run arguments before = (tool.configure arguments).map fun c => c.run before := by
  unfold run configure
  cases tool with
  | frame => cases FrameTool.Settings.read arguments <;> rfl
  | font => cases FontTool.Settings.read arguments <;> rfl
  | version => cases VersionTool.Settings.read arguments <;> rfl

/-! ### Effects -/

/-- What a run does, apart from its reports. -/
structure Effect where
  status : Nat
  printed : List UInt8
  disk : Disk
  network : Network

/-- The effect of a run that has ended. -/
def Effect.ofRun (run : Finish × Surroundings) : Effect :=
  { status := run.1.status, printed := run.1.printed, disk := run.2.disk, network := run.2.network }

/-- The effect of a run that breaks off: its status is all that there is of it. -/
def Effect.ofCrash (before : Surroundings) : Effect :=
  { status := 101, printed := [], disk := before.disk, network := before.network }

/-- A run that breaks off before it has done anything has no other effect. -/
lemma Effect.ofRun_crash (before : Surroundings) (isVerbose : Bool) (layout : Layout) :
    ofRun (.crash isVerbose layout, before) = ofCrash before := by
  rw [ofRun, Finish.printed_of_output_eq rfl]
  rfl

/-- Surroundings agree for a configuration: in everything but the environment, and in that too, or in the
environment without the choice of reports if the run does not look it up and what reads the choice breaks
off in both or in neither. -/
structure Surroundings.Agree (configuration : Configuration) (before other : Surroundings) : Prop where
  disk_eq : before.disk = other.disk
  network_eq : before.network = other.network
  reader_eq : before.reader = other.reader
  printer_eq : before.printer = other.printer
  environment : before.environment = other.environment ∨
    before.environment.without "RUST_LOG" = other.environment.without "RUST_LOG" ∧
      ¬ configuration.LooksUp before.disk "RUST_LOG" ∧
      (before.reader.Answers before.environment ↔ before.reader.Answers other.environment)

/-- A run without choices about reports has the effect of one with them. -/
lemma Configuration.effect_unlogged (configuration : Configuration) (before : Surroundings) :
    Effect.ofRun (configuration.unlogged.run before) = Effect.ofRun (configuration.run before) := by
  rw [configuration.run_eq before]
  rfl

/-- A run that is to have a log has no other effect either, if there is no filter for it. -/
lemma Surroundings.effect_log_of_not_answers {before : Surroundings}
    (h : ¬ before.reader.Answers before.environment) (isVerbose : Bool)
    (run : Finish × Surroundings) :
    Effect.ofRun (before.log isVerbose run) = Effect.ofCrash before := by
  rw [log_of_not_answers h, Effect.ofRun_crash]

/-- **A run whose log cannot be started** prints nothing and changes nothing. -/
theorem Configuration.effect_of_not_answers {configuration : Configuration} {before : Surroundings}
    (hstarts : configuration.StartsLog) (h : ¬ before.reader.Answers before.environment) :
    Effect.ofRun (configuration.run before) = Effect.ofCrash before := by
  cases configuration with
  | frame settings => exact Surroundings.effect_log_of_not_answers h settings.verbose _
  | font settings => exact Surroundings.effect_log_of_not_answers h settings.verbose _
  | version settings =>
    have hlogs : ¬ settings.Logs before.reader before.environment := fun hlogs => h (hlogs hstarts)
    rw [run, VersionTool.run_of_not_logs hlogs]
    exact Effect.ofRun_crash before settings.showsMore settings.layout

/-- The environment has no influence on the effect of a run with a log but by what it does. -/
lemma Surroundings.effect_log (before other : Surroundings) (hdisk : before.disk = other.disk)
    (hnetwork : before.network = other.network)
    (hanswers : before.reader.Answers before.environment ↔ other.reader.Answers other.environment)
    {isVerbose : Bool} {run run' : Finish × Surroundings} (h : Effect.ofRun run = Effect.ofRun run') :
    Effect.ofRun (before.log isVerbose run) = Effect.ofRun (other.log isVerbose run') := by
  by_cases hyes : before.reader.Answers before.environment
  · rw [log_of_answers hyes, log_of_answers (hanswers.1 hyes), h]
  · rw [effect_log_of_not_answers hyes, effect_log_of_not_answers (mt hanswers.2 hyes),
      Effect.ofCrash, hdisk, hnetwork]
    rfl

/-- A run has the same effect in surroundings that agree for it. -/
lemma Surroundings.Agree.effect_eq {configuration : Configuration} {before other : Surroundings}
    (h : before.Agree configuration other) :
    Effect.ofRun (configuration.run before) = Effect.ofRun (configuration.run other) := by
  obtain ⟨environment, disk, network, reader, printer⟩ := before
  obtain ⟨environment', disk', network', reader', printer'⟩ := other
  obtain ⟨rfl, rfl, rfl, rfl, henvironment⟩ := h
  have hanswers : reader.Answers environment ↔ reader.Answers environment' := by
    rcases henvironment with rfl | ⟨-, -, hanswers⟩
    · rfl
    · exact hanswers
  cases configuration with
  | frame settings =>
    exact effect_log ⟨environment, disk, network, reader, printer⟩ ⟨environment', _, _, _, _⟩ rfl rfl
      hanswers rfl
  | font settings =>
    exact effect_log ⟨environment, disk, network, reader, printer⟩ ⟨environment', _, _, _, _⟩ rfl rfl
      hanswers rfl
  | version settings =>
    have htargets : settings.resolve environment disk = settings.resolve environment' disk := by
      rcases henvironment with rfl | ⟨hsame, hlooks, -⟩
      · rfl
      · exact VersionTool.resolve_congr (by decide) hsame fun path text hpath htext name hname hfinds =>
          hlooks ⟨settings, path, text, name, rfl, hpath, htext, hname, hfinds⟩
    unfold Effect.ofRun Configuration.run
    dsimp only
    rw [VersionTool.run_congr htargets hanswers]

/-! ### Lines -/

/-- The event that a note is. -/
def Note.event? : Note → Option Event
  | .event e => some e
  | .message _ => none

namespace Finish

section Logged

variable (finish : Finish) (reader : Filter.Reader) (environment : Environment)

/-- The events of a run that are shown. -/
def logged : List Event :=
  (finish.notes.filterMap Note.event?).filter
    ((Filter.chosen reader environment finish.isVerbose).getD []).shows

/-- The lines of the events of a run that are shown, in order. -/
def logLines (time : String) : List String :=
  (finish.logged reader environment).map fun event =>
    event.display time environment.allowsColour finish.layout

/-- A run that has nothing but events to report prints their lines. -/
theorem report_eq_join (h : ∀ note ∈ finish.notes, ∃ event, note = .event event) (time : String) :
    finish.report reader environment time =
      String.join (finish.logLines reader environment time) := by
  unfold report Workbench.display logLines logged
  generalize (Filter.chosen reader environment finish.isVerbose).getD [] = filter
  generalize finish.notes = notes at h ⊢
  induction notes with
  | nil => rfl
  | cons note notes ih =>
    obtain ⟨⟨event, rfl⟩, hothers⟩ := List.forall_mem_cons.1 h
    have hevent : Note.event? (.event event) = some event := rfl
    rw [List.map_cons, String.join_cons, ih hothers, List.filterMap_cons_some hevent, Note.display]
    by_cases hshown : filter.shows event = true
    · rw [if_pos hshown, List.filter_cons_of_pos hshown, List.map_cons, String.join_cons]
    · rw [if_neg hshown, List.filter_cons_of_neg hshown, String.empty_append]

end Logged

end Finish

namespace Filter

/-- More of each component is shown to users who want more. -/
lemma threshold_le (component : Component) :
    quiet.threshold component.name ≤ verbose.threshold component.name := by
  cases component <;> decide

/-- What is shown to all users is shown to those who want more. -/
lemma shows_verbose {event : Event} (h : quiet.shows event = true) : verbose.shows event = true := by
  simp only [shows, decide_eq_true_eq] at h ⊢
  exact h.trans (threshold_le event.component)

/-- The settings that a tool announces are shown to no user. -/
lemma shows_announced (configuration : Configuration) :
    quiet.shows configuration.announced = false ∧ verbose.shows configuration.announced = false := by
  simp only [shows, decide_eq_false_iff_not]
  cases configuration <;> simp only [Configuration.announced] <;> exact ⟨by decide, by decide⟩

end Filter

/-- **Users who want more see all lines that others see**, in the same order.

**Proof sketch.** The two runs report the same, but for the settings that they announce, which are shown
in neither (`Filter.shows_announced`). -/
theorem Finish.sublist_logLines (finish : Finish) (configuration other : Configuration)
    (reader : Filter.Reader) {environment : Environment}
    (hunset : environment.get? "RUST_LOG" = none) (layout : Layout) (time : String) :
    let less := finish.withLogging (.event configuration.announced) false layout
    let more := finish.withLogging (.event other.announced) true layout
    (less.logLines reader environment time).Sublist (more.logLines reader environment time) := by
  intro less more
  have hquiet : (Filter.chosen reader environment false).getD [] = .quiet := by
    rw [Filter.chosen, hunset]
    rfl
  have hverbose : (Filter.chosen reader environment true).getD [] = .verbose := by
    rw [Filter.chosen, hunset]
    rfl
  have hmore : ∀ events : List Event,
      (events.filter Filter.quiet.shows).Sublist (events.filter Filter.verbose.shows) := fun events =>
    List.monotone_filter_right _ fun event hshown => Filter.shows_verbose hshown
  obtain ⟨hnot, -⟩ := Filter.shows_announced configuration
  obtain ⟨-, hnot'⟩ := Filter.shows_announced other
  unfold logLines logged
  refine List.Sublist.map _ ?_
  change ((List.filterMap _ _).filter ((Filter.chosen reader environment false).getD []).shows).Sublist
    ((List.filterMap _ _).filter ((Filter.chosen reader environment true).getD []).shows)
  rw [hquiet, hverbose]
  unfold less more withLogging
  dsimp only
  split
  · next e notes hnotes =>
    change ((configuration.announced :: notes.filterMap Note.event?).filter _).Sublist
      ((other.announced :: notes.filterMap Note.event?).filter _)
    rw [List.filter_cons_of_neg (by rw [hnot]; decide), List.filter_cons_of_neg (by rw [hnot']; decide)]
    exact hmore _
  · exact hmore _

/-! ### The influence of reports -/

/-- The log lines of a run that are shown; there are none if the arguments are refused. -/
def Tool.logLines (tool : Tool) (arguments : List String) (before : Surroundings) (time : String) :
    List String :=
  match tool.run arguments before with
  | .ok (finish, _) => finish.logLines before.reader before.environment time
  | .error _ => []

/-- **The choices about reports have no influence on the effect of a run**, and neither has the name that
they are chosen by in the environment, unless the run looks it up, or what reads the filter breaks off for
one value of it and not for the other. Where it breaks off, a run that starts its log has status 101,
prints nothing and changes nothing. Where that name has no value and lines are in columns, users who want
more see all lines that others see, in the same order.

**Proof sketch.** Two runs with the same settings but for these choices differ from one run without them
in their reports only (`Configuration.run_eq`), and so they have its effect, in all surroundings that
agree (`Surroundings.Agree.effect_eq`). What they report is the same, but for the settings that they
announce (`Finish.sublist_logLines`). -/
theorem Tool.run_ignores_logging {tool : Tool} {arguments others : List String}
    {configuration other : Configuration} {before before' : Surroundings}
    (hconfiguration : tool.configure arguments = .ok configuration)
    (hother : tool.configure others = .ok other) (hsame : configuration.unlogged = other.unlogged)
    (hbefore : before.Agree configuration before') :
    (tool.run arguments before).map Effect.ofRun = (tool.run others before').map Effect.ofRun ∧
      (configuration.StartsLog → ¬ before.reader.Answers before.environment →
        (tool.run arguments before).map Effect.ofRun = .ok (.ofCrash before)) ∧
      (before.environment.get? "RUST_LOG" = none →
        configuration.logsJson = false → other.logsJson = false →
        configuration.isVerbose = false → other.isVerbose = true → ∀ time,
          (tool.logLines arguments before time).Sublist (tool.logLines others before time)) := by
  refine ⟨?_, fun hstarts hanswers => ?_, ?_⟩
  · rw [tool.run_eq, tool.run_eq, hconfiguration, hother]
    refine congrArg Except.ok ?_
    calc Effect.ofRun (configuration.run before)
        = Effect.ofRun (configuration.run before') := hbefore.effect_eq
      _ = Effect.ofRun (configuration.unlogged.run before') :=
          (configuration.effect_unlogged before').symm
      _ = Effect.ofRun (other.unlogged.run before') := by rw [hsame]
      _ = Effect.ofRun (other.run before') := other.effect_unlogged before'
  · rw [tool.run_eq, hconfiguration]
    exact congrArg Except.ok (Configuration.effect_of_not_answers hstarts hanswers)
  · intro hunset hcolumns hcolumns' hquiet hverbose time
    have hless : configuration.showsMore = false := by rw [configuration.showsMore_eq, hquiet]; rfl
    have hmore : other.showsMore = true := by rw [other.showsMore_eq, hverbose, hcolumns']; rfl
    have hlayout : configuration.layout = other.layout := by
      rw [configuration.layout_eq, other.layout_eq, hcolumns, hcolumns']
    rw [Tool.logLines, Tool.logLines, tool.run_eq, tool.run_eq, hconfiguration, hother]
    change ((configuration.run before).1.logLines _ _ _).Sublist ((other.run before).1.logLines _ _ _)
    rw [configuration.run_eq, other.run_eq, hsame, hless, hmore, hlayout]
    exact Finish.sublist_logLines _ _ _ _ hunset _ _

/-- Runs of the version tool, in an environment that chooses reports and in one that does not, without
and with more reports. Its document looks another name up. -/
theorem run_ignores_logging_release :
    let document := "[[targets]]\npath = \"${V}\"\nprefix = \"p\"\nstyle = \"bare\"\n"
    let disk : Disk :=
      { entries := [(["t.toml"], .file (Disk.octetsOf document)), (["f"], .file (Disk.octetsOf "p0\n"))]
        start := [] }
    let plain : Surroundings := { environment := .ofPairs [("V", "f")], disk, network := ⟨[]⟩ }
    let tracing : Surroundings :=
      { environment := .ofPairs [("RUST_LOG", "trace"), ("V", "f")], disk, network := ⟨[]⟩ }
    let arguments := ["1", "--targets", "t.toml"]
    let more := ["1", "--targets", "t.toml", "-v"]
    (Tool.version.run arguments tracing).map Effect.ofRun =
        (Tool.version.run more plain).map Effect.ofRun ∧
      ∀ time, (Tool.version.logLines arguments plain time).Sublist
        (Tool.version.logLines more plain time) := by
  intro document disk plain tracing arguments more
  let settings : VersionTool.Settings :=
    { version := some "1", root := ".", targets := some "t.toml", strict := false, logJson := false
      verbose := false }
  have hconfiguration : Tool.version.configure arguments = .ok (.version settings) := by decide +kernel
  have hmore : Tool.version.configure more = .ok (.version { settings with verbose := true }) := by
    decide +kernel
  have hread : disk.readText "t.toml" = .ok document := by decide +kernel
  have hnames : Environment.references document.toList = ["V".toList] := by decide +kernel
  have hlooks : ¬ (Configuration.version settings).LooksUp disk "RUST_LOG" := by
    rintro ⟨_, path, text, reference, hsettings, hpath, htext, hreference, hfinds⟩
    obtain rfl := Configuration.version.inj hsettings
    obtain rfl := Option.some.inj hpath
    obtain rfl := Except.ok.inj (hread.symm.trans htext)
    rw [hnames, List.mem_singleton] at hreference
    rw [hreference, Environment.Finds] at hfinds
    exact absurd hfinds (by decide)
  -- the filter of one environment can be read, and there is none to be read in the other one
  have hreads : tracing.reader.Answers tracing.environment := by
    intro text htext
    obtain rfl := Option.some.inj ((by decide : tracing.environment.get? "RUST_LOG" =
      some "trace").symm.trans htext)
    decide +kernel
  have hnone : tracing.reader.Answers plain.environment := by
    intro text htext
    exact absurd ((by decide : plain.environment.get? "RUST_LOG" = none).symm.trans htext) (by simp)
  have htracing : tracing.Agree (.version settings) plain :=
    ⟨rfl, rfl, rfl, rfl, .inr ⟨by decide, hlooks, iff_of_true hreads hnone⟩⟩
  have hplain : plain.Agree (.version settings) plain := ⟨rfl, rfl, rfl, rfl, .inl rfl⟩
  exact ⟨(Tool.run_ignores_logging hconfiguration hmore rfl htracing).1,
    (Tool.run_ignores_logging hconfiguration hmore rfl hplain).2.2 (by decide) rfl rfl rfl rfl⟩

/-- A reference with an equals sign in its name looks up the name that reports are chosen by, if its
value goes on like that. And a value that begins with a wide blank ends the run before it has begun. -/
theorem not_run_ignores_logging :
    let document := "[[targets]]\npath = \"${RUST_LOG=x}\"\nprefix = \"p\"\nstyle = \"bare\"\n"
    let disk : Disk :=
      { entries :=
          [ (["t.toml"], .file (Disk.octetsOf document)),
            (["error"], .file (Disk.octetsOf "p0\n")),
            (["${RUST_LOG=x}"], .file (Disk.octetsOf "p0\n")) ]
        start := [] }
    let plain : Surroundings := { environment := .ofPairs [], disk, network := ⟨[]⟩ }
    let filtered : Surroundings :=
      { environment := .ofPairs [("RUST_LOG", "x=error")], disk, network := ⟨[]⟩ }
    let wide : Surroundings :=
      { environment := .ofPairs [("RUST_LOG", "\u00a0a=info")], disk, network := ⟨[]⟩ }
    let arguments := ["1", "--targets", "t.toml"]
    ("RUST_LOG".toList ∉ Environment.references document.toList ∧
      filtered.environment.without "RUST_LOG" = plain.environment ∧
      (Tool.version.run arguments filtered).map Effect.ofRun ≠
        (Tool.version.run arguments plain).map Effect.ofRun) ∧
    wide.environment.without "RUST_LOG" = plain.environment ∧
      (Tool.version.run arguments wide).map (fun run => run.1.status) = .ok 101 ∧
      (Tool.version.run arguments plain).map (fun run => run.1.status) = .ok 0 := by
  intro document disk plain filtered wide arguments
  refine ⟨⟨by decide +kernel, by decide, fun h => ?_⟩, by decide, by decide +kernel,
    by decide +kernel⟩
  have htext := congrArg (Except.map fun effect => (effect.disk.readText "error").toOption) h
  revert htext
  decide +kernel

end Workbench
