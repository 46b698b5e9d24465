import Workbench.Proofs.Version.Reordering
import Workbench.Proofs.Version.Reports

set_option relaxedAutoImplicit false
set_option autoImplicit false

/-!
# A run is a run for each file

The targets of a run may come in any mixture: several for one file, with leads that find the same lines,
and targets of other files in between. Every target reads what the target before it with the same path
has left, and nothing that other paths hold. So what becomes of a file, and what is reported of its
targets, can be told from its own text and its own targets: they patch the text one after the other.
Whether a run succeeds is decided file by file too, which is why targets can be moved past those of other
files.

## Main definitions

* `Workbench.reportAt` — the report of one file.
* `Workbench.reportOn` — what is reported of the patches of one text.
* `Workbench.MemoryStore.ActsByFile` — a run that acts on each file as on its own.

## Main results

* `Workbench.Texts.patchAll_eq_of_targetsAt_eq` — targets of different files can change places.
* `Workbench.MemoryStore.reportAt_of_completes` — the report of a file.
* `Workbench.MemoryStore.exists_report_iff` — a run succeeds if it does for each file.
* `Workbench.applyVersion_actsByFile` — every run that succeeds acts on each file as on its own.
-/

namespace Workbench

/-! ### The part of one file -/

/-- What is reported of the targets with a path, in order. -/
def reportAt (path : String) (report : Report) : Report :=
  report.filter fun entry => entry.1.path = path

/-- What is reported of targets that patch a text one after the other. -/
def reportOn (version : String) : List Target → String → Report
  | [], _ => []
  | target :: targets, text =>
    (target, (target.patch version text).2) :: reportOn version targets (target.patch version text).1

namespace Texts

variable {version : String}

/-- The patch of a target can be made before those of targets with other paths. -/
lemma patchAll_append_cons {front behind : List Target} {target : Target}
    (h : ∀ other ∈ front, other.path ≠ target.path) (texts : Texts) :
    texts.patchAll version (front ++ target :: behind) =
      (texts.patch version target).patchAll version (front ++ behind) := by
  induction front generalizing texts with
  | nil => rfl
  | cons other front ih =>
    obtain ⟨hother, hfront⟩ := List.forall_mem_cons.1 h
    rw [List.cons_append, patchAll_cons, ih hfront, patch_comm_of_path_ne hother, List.cons_append,
      patchAll_cons]

/-- **Targets of different files can change places**: the texts that are left depend on the order of the
targets of each file only.

**Proof sketch.** Induction on the targets. In the other order the first of them comes behind targets of
other files only, so that its patch can be made before theirs. -/
theorem patchAll_eq_of_targetsAt_eq {targets reordered : List Target}
    (h : ∀ path, targetsAt path reordered = targetsAt path targets) (texts : Texts) :
    texts.patchAll version reordered = texts.patchAll version targets := by
  induction targets generalizing reordered texts with
  | nil =>
    have hnil : reordered = [] := by
      cases reordered with
      | nil => rfl
      | cons target rest =>
        have hself := h target.path
        rw [targetsAt_cons_self] at hself
        simp at hself
    rw [hnil]
  | cons target targets ih =>
    have hself := h target.path
    rw [targetsAt_cons_self] at hself
    obtain ⟨front, behind, rfl, hfront, -, hbehind⟩ := List.filter_eq_cons_iff.1 hself
    have hother : ∀ other ∈ front, other.path ≠ target.path := by simpa using hfront
    rw [patchAll_append_cons hother, patchAll_cons]
    refine ih (fun path => ?_) _
    by_cases hpath : target.path = path
    · subst hpath
      have hnone : targetsAt target.path front = [] := List.filter_eq_nil_iff.2 hfront
      calc targetsAt target.path (front ++ behind)
          = targetsAt target.path front ++ targetsAt target.path behind := List.filter_append ..
        _ = targetsAt target.path targets := by rw [hnone, List.nil_append]; exact hbehind
    · have hpath' := h path
      rw [targetsAt_cons_ne hpath] at hpath'
      rw [← hpath']
      simp [targetsAt, hpath]

end Texts

/-! ### The steps of one file -/

namespace MemoryStore

variable {memory : MemoryStore} {version : String}

/-- Steps at one path can be completed over any texts with the same text at that path. -/
lemma completes_congr {path : String} {steps : List Step}
    (hpath : ∀ step ∈ steps, step.target.path = path) {texts texts' : Texts}
    (hsame : texts.get? path = texts'.get? path) (h : memory.Completes version texts steps) :
    memory.Completes version texts' steps := by
  induction steps generalizing texts texts' with
  | nil => trivial
  | cons step steps ih =>
    obtain ⟨hstep, hsteps⟩ := List.forall_mem_cons.1 hpath
    obtain ⟨hr, ht, hw, hrest⟩ := h
    subst hstep
    have ht' : texts'.get? step.target.path = some step.text := hsame.symm.trans ht
    refine ⟨hr, ht', hw, ih hsteps ?_ hrest⟩
    rw [Texts.putAll_writes ht, Texts.putAll_writes ht', Texts.get?_patch, Texts.get?_patch, hsame]

/-- The steps at one path among steps that can be completed can be completed without the others. -/
lemma completes_filter (path : String) {steps : List Step} {texts : Texts}
    (h : memory.Completes version texts steps) :
    memory.Completes version texts (steps.filter fun step => step.target.path = path) := by
  induction steps generalizing texts with
  | nil => trivial
  | cons step steps ih =>
    obtain ⟨hr, ht, hw, hrest⟩ := h
    by_cases hpath : step.target.path = path
    · rw [List.filter_cons_of_pos (by simpa using hpath)]
      exact ⟨hr, ht, hw, ih hrest⟩
    · rw [List.filter_cons_of_neg (by simpa using hpath)]
      have hothers : ∀ other ∈ steps.filter fun step => step.target.path = path,
          other.target.path = path := fun other hm => by simpa using List.of_mem_filter hm
      refine completes_congr hothers ?_ (ih hrest)
      rw [Texts.putAll_writes ht, Texts.get?_patch_ne hpath]

/-- Steps that can be completed for each path on its own can be completed in the given order.

**Proof sketch.** Induction on the targets. The first target is the first one of its path, so its step
can be completed. It leaves the texts at the other paths, and at its own path those for the further
targets of that path. -/
lemma exists_completes_of_files {targets : List Target} {texts : Texts}
    (h : ∀ path, ∃ steps, steps.map Step.target = targetsAt path targets ∧
      memory.Completes version texts steps) :
    ∃ steps, steps.map Step.target = targets ∧ memory.Completes version texts steps := by
  induction targets generalizing texts with
  | nil => exact ⟨[], rfl, trivial⟩
  | cons target targets ih =>
    obtain ⟨own, hown, hcompletes⟩ := h target.path
    rw [targetsAt_cons_self] at hown
    obtain ⟨step, later, rfl, rfl, hlater⟩ := List.map_eq_cons_iff.1 hown
    obtain ⟨hr, ht, hw, hrest⟩ := hcompletes
    have hfiles : ∀ path, ∃ steps, steps.map Step.target = targetsAt path targets ∧
        memory.Completes version (texts.putAll (step.writes version)) steps := by
      intro path
      by_cases hpath : step.target.path = path
      · exact ⟨later, hpath ▸ hlater, hrest⟩
      · obtain ⟨steps, hsteps, hc⟩ := h path
        rw [targetsAt_cons_ne hpath] at hsteps
        have hothers : ∀ other ∈ steps, other.target.path = path := fun other hm => by
          have hmem : other.target ∈ targetsAt path targets := hsteps ▸ List.mem_map_of_mem hm
          exact (mem_targetsAt_iff.1 hmem).2
        refine ⟨steps, hsteps, completes_congr hothers ?_ hc⟩
        rw [Texts.putAll_writes ht, Texts.get?_patch_ne hpath]
    obtain ⟨steps, rfl, hsteps⟩ := ih hfiles
    exact ⟨step :: steps, rfl, hr, ht, hw, hsteps⟩

/-- Completed steps at one path report what is reported of the patches of its text. -/
lemma map_entry_eq_reportOn {path : String} {steps : List Step}
    (hpath : ∀ step ∈ steps, step.target.path = path) {texts : Texts} {text : String}
    (htext : texts.get? path = some text) (h : memory.Completes version texts steps) :
    steps.map (Step.entry version) = reportOn version (steps.map Step.target) text := by
  induction steps generalizing texts text with
  | nil => rfl
  | cons step steps ih =>
    obtain ⟨hstep, hsteps⟩ := List.forall_mem_cons.1 hpath
    obtain ⟨-, ht, -, hrest⟩ := h
    subst hstep
    obtain rfl : step.text = text := Option.some.inj (ht.symm.trans htext)
    have hafter : (texts.putAll (step.writes version)).get? step.target.path =
        some (step.target.patch version step.text).1 := by
      rw [Texts.putAll_writes ht, Texts.get?_patch, ht]
      rfl
    rw [List.map_cons, List.map_cons, reportOn, ih hsteps hafter hrest]
    rfl

/-- **The report of a file** is what is reported of the patches of its text. A file without a text has no
completed steps. -/
theorem reportAt_of_completes {steps : List Step} {texts : Texts}
    (h : memory.Completes version texts steps) (path : String) :
    reportAt path (steps.map (Step.entry version)) =
      (texts.get? path).elim [] (reportOn version (targetsAt path (steps.map Step.target))) := by
  have hpath : ∀ step ∈ steps.filter fun step => step.target.path = path,
      step.target.path = path := fun step hm => by simpa using List.of_mem_filter hm
  have hown := completes_filter path h
  have hreport : reportAt path (steps.map (Step.entry version)) =
      (steps.filter fun step => step.target.path = path).map (Step.entry version) := List.filter_map
  have htargets : targetsAt path (steps.map Step.target) =
      (steps.filter fun step => step.target.path = path).map Step.target := List.filter_map
  rw [hreport, htargets]
  generalize steps.filter (fun step => step.target.path = path) = own at hpath hown
  cases htext : texts.get? path with
  | some text => exact map_entry_eq_reportOn hpath htext hown
  | none =>
    cases own with
    | nil => rfl
    | cons step later =>
      have hread := hown.2.1
      rw [hpath step List.mem_cons_self, htext] at hread
      simp at hread

/-- **A run succeeds if it does for each file**, over the targets of that file alone. -/
theorem exists_report_iff {targets : List Target} :
    (∃ report, (applyVersion store version targets memory).result = .ok report) ↔
      ∀ path, ∃ report, (applyVersion store version (targetsAt path targets) memory).result = .ok report := by
  have hsteps : ∀ targets, (∃ report, (applyVersion store version targets memory).result = .ok report) ↔
      ∃ steps, steps.map Step.target = targets ∧ memory.Completes version memory.texts steps := by
    intro targets
    constructor
    · rintro ⟨report, h⟩
      obtain ⟨steps, hmap, hsteps, -⟩ := exists_completes_of_ok h
      exact ⟨steps, hmap, hsteps⟩
    · rintro ⟨steps, rfl, hsteps⟩
      exact ⟨_, congrArg Work.result (applyVersion_of_completes hsteps)⟩
  simp only [hsteps]
  constructor
  · rintro ⟨steps, rfl, hsteps⟩ path
    exact ⟨_, by rw [targetsAt, List.filter_map]; rfl, completes_filter path hsteps⟩
  · exact exists_completes_of_files

end MemoryStore

/-! ### Runs -/

/-- A run that acts on each file as on its own. -/
structure MemoryStore.ActsByFile (memory : MemoryStore) (version : String) (targets : List Target)
    (report : Report) (after : MemoryStore) : Prop where
  /-- Every target is reported, in order. -/
  targets_eq : report.map Prod.fst = targets
  /-- The text of a file is what its own targets make of it, one after the other. -/
  text_eq : ∀ path, after.texts.get? path =
    (memory.texts.get? path).map (patchText version (targetsAt path targets))
  /-- What is reported of the targets of a file is what each of them does to the text that the one
  before it has left. Only files that are there have targets. -/
  report_eq : ∀ path, reportAt path report =
    (memory.texts.get? path).elim [] (reportOn version (targetsAt path targets))

/-- A run that succeeds acts on each file as on its own. It leaves the texts with all patches made, and
its calls are told by what it reports. -/
lemma MemoryStore.actsByFile_of_ok {memory : MemoryStore} {version : String} {targets : List Target}
    {report : Report} (h : (applyVersion store version targets memory).result = .ok report) :
    memory.ActsByFile version targets report (applyVersion store version targets memory).after ∧
      (applyVersion store version targets memory).after =
        { memory with
          texts := memory.texts.patchAll version targets
          calls := memory.calls ++ report.flatMap fun entry => entry.1.callsFor version entry.2 } := by
  obtain ⟨steps, rfl, hsteps, rfl⟩ := exists_completes_of_ok h
  have htexts := putAll_flatMap_writes hsteps
  have hcalls : steps.flatMap (Step.calls version) =
      (steps.map (Step.entry version)).flatMap fun entry => entry.1.callsFor version entry.2 := by
    rw [List.flatMap_map]
    exact List.flatMap_congr fun step _ => Step.calls_eq_callsFor
  rw [applyVersion_of_completes hsteps, afterSteps, htexts, hcalls]
  exact ⟨⟨by simp [Step.entry, Function.comp_def], Texts.get?_patchAll _ _,
    reportAt_of_completes hsteps⟩, rfl⟩

/-- Reports with the same part for each file are the same up to their order. -/
lemma perm_of_reportAt_eq {report report' : Report}
    (h : ∀ path, reportAt path report' = reportAt path report) : report'.Perm report := by
  refine List.perm_iff_count.2 fun entry => ?_
  have hcount : ∀ report : Report, (reportAt entry.1.path report).count entry = report.count entry :=
    fun report => List.count_filter (by simp)
  rw [← hcount report', ← hcount report, h]

/-- **Every run that succeeds acts on each file as on its own.** Whatever the version is, and however the
paths and leads of the targets are repeated and overlap: the text of a file at the end is its text at the
start after the patches of its own targets, in order, and of each of these targets that is reported which
its patch there does. So two runs that succeed do the same to a file if they find the same text in it and
have the same targets for it, whatever other targets and files there are. Over the same store, targets
in any order that is the same for the targets of each file make a run that succeeds too, leaves the same
store, up to the order in which its journal has the calls, and reports the same of each file.

**Proof sketch.** A run that succeeds has completed the steps of all targets. The steps of one path can be
completed without the others (`MemoryStore.completes_filter`), which gives the report, and the patches of
other files leave the text of a file (`Texts.get?_patchAll`). In another order the run succeeds because it
does for each file (`MemoryStore.exists_report_iff`), and patches of different files commute
(`Texts.patchAll_eq_of_targetsAt_eq`). -/
theorem applyVersion_actsByFile {memory : MemoryStore} {version : String} {targets : List Target}
    {report : Report} (h : (applyVersion MemoryStore.store version targets memory).result = .ok report) :
    let run := applyVersion MemoryStore.store version targets memory
    memory.ActsByFile version targets report run.after ∧
      (∀ path memory' targets' report',
        (applyVersion MemoryStore.store version targets' memory').result = .ok report' →
        memory'.texts.get? path = memory.texts.get? path →
        targetsAt path targets' = targetsAt path targets →
        (applyVersion MemoryStore.store version targets' memory').after.texts.get? path =
            run.after.texts.get? path ∧
          reportAt path report' = reportAt path report) ∧
      ∀ reordered, (∀ path, targetsAt path reordered = targetsAt path targets) →
        let other := applyVersion MemoryStore.store version reordered memory
        other.after = { run.after with calls := other.after.calls } ∧
          other.after.calls.Perm run.after.calls ∧
          ∃ report', other.result = .ok report' ∧ ∀ path, reportAt path report' = reportAt path report := by
  intro run
  obtain ⟨hrun, hafter⟩ := MemoryStore.actsByFile_of_ok h
  refine ⟨hrun, fun path memory' targets' report' h' htext htargets => ?_, fun reordered horder => ?_⟩
  · obtain ⟨hrun', -⟩ := MemoryStore.actsByFile_of_ok h'
    rw [hrun'.text_eq, hrun'.report_eq, hrun.text_eq, hrun.report_eq, htext, htargets]
    exact ⟨rfl, rfl⟩
  · intro other
    obtain ⟨report', h'⟩ := MemoryStore.exists_report_iff.2 fun path => by
      rw [horder path]
      exact MemoryStore.exists_report_iff.1 ⟨report, h⟩ path
    obtain ⟨hrun', hafter'⟩ := MemoryStore.actsByFile_of_ok h'
    have hreport : ∀ path, reportAt path report' = reportAt path report := fun path => by
      rw [hrun'.report_eq, hrun.report_eq, horder path]
    refine ⟨?_, ?_, report', h', hreport⟩
    · rw [hafter, hafter', Texts.patchAll_eq_of_targetsAt_eq horder]
    · rw [hafter, hafter']
      exact ((perm_of_reportAt_eq hreport).flatMap_right _).append_left _

/-- Two targets of one file of which the second finds what the first has written, with a target of a file
between them that cannot be written; then the two behind that target. -/
theorem applyVersion_actsByFile_overlapping :
    let short : Target := { path := "a", lead := "n", style := .bare, tail := none }
    let long : Target := { path := "a", lead := "n2", style := .bare, tail := none }
    let other : Target := { path := "b", lead := "v ", style := .quoted, tail := some ";" }
    let memory : MemoryStore :=
      { texts := [("a", "n0\r\nn2\n"), ("b", "v \"2x\";")]
        writeFaults := [("b", .file .noEntry)] }
    let report : Report :=
      [(short, .updated "n2x"), (other, .unchanged "v \"2x\";"), (long, .updated "n22x")]
    let moved := applyVersion MemoryStore.store "2x" [other, short, long] memory
    ((applyVersion MemoryStore.store "2x" [short, other, long] memory).result = .ok report ∧
      ∀ path, targetsAt path [other, short, long] = targetsAt path [short, other, long]) ∧
    (applyVersion MemoryStore.store "2x" [short, other, long] memory).after.texts.get? "a" =
        some "n22x\r\nn2\n" ∧
      moved.after.texts.get? "a" = some "n22x\r\nn2\n" := by
  intro short long other memory report moved
  have h : (applyVersion MemoryStore.store "2x" [short, other, long] memory).result = .ok report := by
    decide +kernel
  have horder : ∀ path, targetsAt path [other, short, long] = targetsAt path [short, other, long] := by
    intro path
    by_cases hpath : "a" = path
    · subst hpath
      rfl
    · simp [targetsAt, List.filter_cons, short, long, hpath]
  obtain ⟨hrun, -, hmoved⟩ := applyVersion_actsByFile h
  have htext : (applyVersion MemoryStore.store "2x" [short, other, long] memory).after.texts.get? "a" =
      some "n22x\r\nn2\n" := by
    rw [hrun.text_eq]
    decide +kernel
  refine ⟨⟨h, horder⟩, htext, ?_⟩
  rw [(hmoved _ horder).1]
  exact htext

end Workbench
