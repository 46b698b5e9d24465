import Workbench.Proofs.Checks
import Workbench.Proofs.Disk.Folders
import Workbench.Tool

set_option relaxedAutoImplicit false
set_option autoImplicit false

/-!
# What the exit status of the version tool tells

A run of the version tool takes one of a few courses: it stops before any file is touched, or a file
fails on the way, or all targets are applied and the report is judged. Here is what each course does to
the files and which status it ends with, and from that what each status tells. A run that has a version
but no filter for its log takes none of them, since it breaks off before.

## Main definitions

* `Workbench.VersionTool.Settings.Gives` — the version and the targets that a run starts with.
* `Workbench.VersionTool.Settings.Applies`, `Workbench.VersionTool.Settings.AppliesPart` — runs that
  applied all targets, and runs that applied only the first ones.
* `Workbench.VersionTool.Course` — the courses of a run.
* `Workbench.VersionTool.StatusTells` — what the status tells.

## Main results

* `Workbench.VersionTool.course_run` — every run with a log takes one of the courses.
* `Workbench.VersionTool.run_strict` — what is left does not depend on whether the run is strict.
* `Workbench.VersionTool.status_tells` — what the status of a run tells, for all arguments.
-/

namespace Workbench.VersionTool

/-! ### Judging a report -/

/-- A report is good enough unless the run is strict and a line was not found. -/
lemma judge_eq_ok_iff {strict : Bool} {report : Report} :
    judge strict report = .ok () ↔
      (strict = true → ∀ entry ∈ report, entry.2 ≠ .leadNotFound) := by
  cases strict with
  | false => simp [judge]
  | true =>
    simp only [judge, if_true, forall_const]
    cases hf : report.find? fun entry => entry.2 == .leadNotFound with
    | none => simpa using hf
    | some entry =>
      have hm := List.mem_of_find?_eq_some hf
      have hl : entry.2 = .leadNotFound := by simpa using List.find?_some hf
      simp only [reduceCtorEq, false_iff, not_forall]
      exact ⟨entry, hm, not_not.2 hl⟩

/-- A report that is not good enough is judged by its first line that was not found. -/
lemma exists_of_judge_eq_error {strict : Bool} {report : Report} {fault : Fault}
    (h : judge strict report = .error fault) :
    strict = true ∧ ∃ before target rest, report = before ++ (target, .leadNotFound) :: rest ∧
      (∀ entry ∈ before, entry.2 ≠ .leadNotFound) ∧
      fault = .leadNotFound target.path target.lead := by
  cases strict with
  | false => simp [judge] at h
  | true =>
    simp only [judge, if_true] at h
    split at h
    · next target outcome hf =>
      obtain ⟨hl, before, rest, rfl, hbefore⟩ := List.find?_eq_some_iff_append.1 hf
      obtain rfl : outcome = .leadNotFound := by simpa using hl
      exact ⟨rfl, before, target, rest, rfl, fun entry hm => by simpa using hbefore entry hm,
        (Except.error.inj h).symm⟩
    · simp at h

/-! ### What a run starts with -/

/-- A document of targets that cannot be read. -/
def Settings.DocumentUnreadable (settings : Settings) (disk : Disk) : Prop :=
  ∃ path cause, settings.targets = some path ∧ disk.readText path = .error cause

/-- A document of targets that can be read, but is malformed or names targets that are refused. -/
def Settings.DocumentRejected (settings : Settings) (environment : Environment) (disk : Disk) : Prop :=
  ∃ path text rejection, settings.targets = some path ∧ disk.readText path = .ok text ∧
    targetsOfText environment text = .error rejection

/-- A document that is rejected is a wrong setting. -/
lemma severity_of_targetsOfText {environment : Environment} {text : String} {rejection : Rejection}
    (h : targetsOfText environment text = .error rejection) : rejection.fault.severity = .high := by
  unfold targetsOfText at h
  split at h
  · obtain rfl := Except.error.inj h
    rfl
  · split at h
    · next targets _ fault hcheck =>
      obtain rfl := Except.error.inj h
      exact severity_of_checkTargets hcheck
    · simp at h

/-- Targets cannot be had because the document cannot be read or because it is rejected. -/
lemma Settings.exists_of_resolve_eq_error {settings : Settings} {environment : Environment}
    {disk : Disk} {fault : Fault} (h : settings.resolve environment disk = .error fault) :
    (settings.DocumentUnreadable disk ∧ ∃ cause, fault = .file cause) ∨
      settings.DocumentRejected environment disk ∧ fault.severity = .high := by
  unfold resolve at h
  split at h
  · next path hpath =>
    unfold targetsOfFile at h
    split at h
    · next cause hread => exact .inl ⟨⟨path, cause, hpath, hread⟩, cause, (Except.error.inj h).symm⟩
    · next text hread =>
      cases ht : targetsOfText environment text with
      | ok targets =>
        rw [ht] at h
        simp [Except.mapError] at h
      | error rejection =>
        rw [ht] at h
        obtain rfl := Except.error.inj h
        exact .inr ⟨⟨path, text, rejection, hpath, hread, ht⟩, severity_of_targetsOfText ht⟩
  · simp at h

/-- A document that is rejected gives no targets, and that is a wrong setting. -/
lemma Settings.DocumentRejected.exists_resolve {settings : Settings} {environment : Environment}
    {disk : Disk} (h : settings.DocumentRejected environment disk) :
    ∃ fault, settings.resolve environment disk = .error fault ∧ fault.severity = .high := by
  obtain ⟨path, text, rejection, hpath, hread, ht⟩ := h
  refine ⟨rejection.fault, ?_, severity_of_targetsOfText ht⟩
  simp [resolve, targetsOfFile, hpath, hread, ht, Except.mapError]

/-- The version and the targets that a run starts with: the settings pass their check, and the targets
can be had. -/
structure Settings.Gives (settings : Settings) (environment : Environment) (disk : Disk)
    (version : String) (targets : List Target) : Prop where
  version_eq : settings.version = some version
  check_eq : settings.check = .ok ()
  resolve_eq : settings.resolve environment disk = .ok targets

/-- The folder that the paths of targets are taken from. -/
def Settings.folder (settings : Settings) : Folder := { base := settings.root }

/-- All targets were applied, with a report and what is left of the disk. -/
def Settings.Applies (settings : Settings) (environment : Environment) (disk : Disk) (report : Report)
    (after : Disk) : Prop :=
  ∃ version targets, settings.Gives environment disk version targets ∧
    (applyVersion settings.folder.store version targets disk).result = .ok report ∧
    (applyVersion settings.folder.store version targets disk).after = after

/-- Only the first targets were applied, and at least one was not. -/
def Settings.AppliesPart (settings : Settings) (environment : Environment) (disk after : Disk) :
    Prop :=
  ∃ version done target rest report,
    settings.Gives environment disk version (done ++ target :: rest) ∧
    (applyVersion settings.folder.store version done disk).result = .ok report ∧
    (applyVersion settings.folder.store version done disk).after = after

/-! ### Courses -/

section Courses

variable {settings : Settings} {reader : Filter.Reader} {environment : Environment} {disk : Disk}

/-- What the user reads last when a run fails. -/
def Settings.Complains (finish : Finish) (fault : Fault) : Prop :=
  [fault.failing .versionTool "update-version", fault.tell, fault.advise] <:+ finish.notes

/-- The courses of a run, each with what it ends with and what is left of the disk. -/
inductive Course (settings : Settings) (environment : Environment) (disk : Disk) :
    Finish → Disk → Prop where
  /-- No version is given. -/
  | unversioned {finish : Finish} (hv : settings.version = none) (hs : finish.status = 1) :
    Course settings environment disk finish disk
  /-- The settings do not pass their check. -/
  | refused {finish : Finish} {fault : Fault} (hc : settings.check = .error fault)
    (hs : finish.status = 1) : Course settings environment disk finish disk
  /-- The document of targets cannot be read. -/
  | unreadable {finish : Finish} (hd : settings.DocumentUnreadable disk) (hs : finish.status = 3) :
    Course settings environment disk finish disk
  /-- The document of targets is rejected. -/
  | rejected {finish : Finish} (hd : settings.DocumentRejected environment disk)
    (hs : finish.status = 1) : Course settings environment disk finish disk
  /-- A file fails. -/
  | interrupted {finish : Finish} {after : Disk}
    (ha : settings.AppliesPart environment disk after) (hs : finish.status = 3) :
    Course settings environment disk finish after
  /-- All targets are applied, but the report is not good enough. -/
  | lacking {finish : Finish} {report : Report} {fault : Fault} {after : Disk}
    (ha : settings.Applies environment disk report after)
    (hj : judge settings.strict report = .error fault) (hs : finish.status = 2)
    (hn : Settings.Complains finish fault) : Course settings environment disk finish after
  /-- All targets are applied, and the report is good enough. -/
  | finished {finish : Finish} {report : Report} {after : Disk}
    (ha : settings.Applies environment disk report after)
    (hj : judge settings.strict report = .ok ()) (hs : finish.status = 0) :
    Course settings environment disk finish after

/-- Without targets a run ends with the status of the fault, and leaves the disk. -/
lemma runLogged_of_resolve_error {fault : Fault} (version : String) (hc : settings.check = .ok ())
    (hr : settings.resolve environment disk = .error fault) :
    (runLogged settings version environment disk).1.status = fault.failureStatus ∧
      (runLogged settings version environment disk).2 = disk := by
  simp [runLogged, runChecked, hc, hr, failure, ending]

/-- With targets a run leaves what applying them leaves, and ends as the report is judged. -/
lemma runLogged_of_gives {version : String} {targets : List Target}
    (h : settings.Gives environment disk version targets) :
    ∃ notes, runLogged settings version environment disk =
      (match (applyVersion settings.folder.store version targets disk).result.bind
          (judge settings.strict) with
        | .error fault => failure settings notes fault
        | .ok () => ending settings 0 (notes ++ [finished version]),
        (applyVersion settings.folder.store version targets disk).after) := by
  obtain ⟨-, hc, hr⟩ := h
  refine ⟨[announcing .versionTool settings.describe] ++ [rooted settings.root] ++
    patching targets.length version ::
      (applyVersion settings.folder.store version targets disk).events.map .event, ?_⟩
  simp only [runLogged, runChecked, hc, hr, patch]
  change (match (applyVersion settings.folder.store version targets disk).result.bind
    (judge settings.strict) with
    | .error fault => _
    | .ok () => _) = _
  cases (applyVersion settings.folder.store version targets disk).result.bind
    (judge settings.strict) <;> rfl

/-- A run that applies all targets ends as the report is judged. -/
lemma run_of_applies {report : Report} {after : Disk} (hlogs : settings.Logs reader environment)
    (h : settings.Applies environment disk report after) :
    (run settings reader environment disk).2 = after ∧
      (judge settings.strict report = .ok () →
        (run settings reader environment disk).1.status = 0) ∧
      ∀ fault, judge settings.strict report = .error fault →
        (run settings reader environment disk).1.status = fault.failureStatus ∧
          Settings.Complains (run settings reader environment disk).1 fault := by
  obtain ⟨version, targets, hgives, hok, rfl⟩ := h
  obtain ⟨notes, hrun⟩ := runLogged_of_gives hgives
  have hjudged : (applyVersion settings.folder.store version targets disk).result.bind
      (judge settings.strict) = judge settings.strict report := by
    rw [hok]
    rfl
  rw [run_of_logs hgives.version_eq hlogs, hrun, hjudged]
  refine ⟨rfl, fun hj => by simp [hj, ending], fun fault hj => ?_⟩
  simp only [hj]
  exact ⟨rfl, List.suffix_append _ _⟩

/-- **Every run with a log takes one of the courses.**

**Proof sketch.** The version, the check, the targets, the calls on files and the judgement are looked
at in this order. A file that fails leaves what the targets before it leave
(`Folder.exists_of_applyVersion_eq_error`). -/
theorem course_run {settings : Settings} {reader : Filter.Reader} {environment : Environment}
    (hlogs : settings.Logs reader environment) (disk : Disk) :
    Course settings environment disk (run settings reader environment disk).1
      (run settings reader environment disk).2 := by
  cases hv : settings.version with
  | none =>
    have hrun : run settings reader environment disk = (ending settings 1 [usage], disk) := by
      simp [run, hv]
    rw [hrun]
    exact .unversioned hv rfl
  | some version =>
  rw [run_of_logs hv hlogs]
  cases hc : settings.check with
  | error fault =>
    have hrun : (runLogged settings version environment disk).1.status = 1 ∧
        (runLogged settings version environment disk).2 = disk := by
      simp [runLogged, hc, ending]
    rw [hrun.2]
    exact .refused hc hrun.1
  | ok value =>
  cases hr : settings.resolve environment disk with
  | error fault =>
    obtain ⟨hstatus, hdisk⟩ := runLogged_of_resolve_error version hc hr
    rw [hdisk]
    rcases Settings.exists_of_resolve_eq_error hr with ⟨hd, cause, rfl⟩ | ⟨hd, hsev⟩
    · exact .unreadable hd hstatus
    · exact .rejected hd (hstatus.trans (failureStatus_of_high hsev))
  | ok targets =>
  have hgives : settings.Gives environment disk version targets := ⟨hv, hc, hr⟩
  cases hw : (applyVersion settings.folder.store version targets disk).result with
  | error fault =>
    obtain ⟨notes, hrun⟩ := runLogged_of_gives hgives
    obtain ⟨⟨cause, rfl⟩, done, target, rest, report, rfl, hdone, hafter⟩ :=
      Folder.exists_of_applyVersion_eq_error hw
    rw [hrun, hw, hafter]
    exact .interrupted ⟨version, done, target, rest, report, hgives, hdone, rfl⟩ rfl
  | ok report =>
    have happlies : settings.Applies environment disk report _ := ⟨version, targets, hgives, hw, rfl⟩
    obtain ⟨hdisk, hgood, hbad⟩ := run_of_applies hlogs happlies
    rw [run_of_logs hv hlogs] at hdisk hgood hbad
    rw [hdisk]
    cases hj : judge settings.strict report with
    | ok value => exact .finished happlies hj (hgood hj)
    | error fault =>
      obtain ⟨hstatus, hnotes⟩ := hbad fault hj
      obtain ⟨-, -, target, -, -, -, rfl⟩ := exists_of_judge_eq_error hj
      exact .lacking happlies hj hstatus hnotes

/-! ### Strictness -/

/-- What a run with a version and a log leaves. -/
lemma runLogged_snd (settings : Settings) (version : String) (environment : Environment)
    (disk : Disk) :
    (runLogged settings version environment disk).2 =
      match settings.check, settings.resolve environment disk with
      | .ok (), .ok targets => (applyVersion settings.folder.store version targets disk).after
      | _, _ => disk := by
  cases hc : settings.check with
  | error fault => simp [runLogged, hc]
  | ok value =>
    cases hr : settings.resolve environment disk with
    | error fault => simp [runLogged, runChecked, hc, hr]
    | ok targets =>
      simp only [runLogged, runChecked, hc, hr]
      cases (patch settings version targets disk).result <;> rfl

/-- **What a run leaves does not depend on whether it is strict.** -/
theorem run_strict (settings : Settings) (strict : Bool) (reader : Filter.Reader)
    (environment : Environment) (disk : Disk) :
    (run { settings with strict } reader environment disk).2 =
      (run settings reader environment disk).2 := by
  let related (lenient stern : Finish × Disk) : Prop := lenient.2 = stern.2
  refine related_run (r := related) rfl Iff.rfl rfl rfl fun version => ?_
  unfold related
  rw [runLogged_snd, runLogged_snd]
  rfl

end Courses

/-! ### What the status tells -/

/-- What the exit status of a run tells about the files. -/
structure StatusTells (settings : Settings) (environment : Environment) (disk : Disk) (finish : Finish)
    (after : Disk) : Prop where
  /-- There are no other statuses. -/
  status_le : finish.status ≤ 3
  /-- Status 0: all targets were applied, and all lines were found if the run is strict. -/
  zero_iff : finish.status = 0 ↔ ∃ report, settings.Applies environment disk report after ∧
    (settings.strict = true → ∀ entry ∈ report, entry.2 ≠ .leadNotFound)
  /-- Status 1: there is no version, the settings are refused, or the document is rejected. -/
  one_iff : finish.status = 1 ↔ settings.version = none ∨ (∃ fault, settings.check = .error fault) ∨
    settings.DocumentRejected environment disk
  /-- Then the disk is as before. -/
  one_after : finish.status = 1 → after = disk
  /-- Status 2: all targets were applied in a strict run, and a line was not found. -/
  two_iff : finish.status = 2 ↔ settings.strict = true ∧
    ∃ report, settings.Applies environment disk report after ∧ ∃ entry ∈ report, entry.2 = .leadNotFound
  /-- Then the user is told the first target whose line was not found. -/
  two_names : ∀ report, finish.status = 2 → settings.Applies environment disk report after →
    ∃ before target rest, report = before ++ (target, .leadNotFound) :: rest ∧
      (∀ entry ∈ before, entry.2 ≠ .leadNotFound) ∧
      Settings.Complains finish (.leadNotFound target.path target.lead)
  /-- Status 3: a file failed. Either it was the document, and the disk is as before, or only the first
  targets were applied. -/
  three_after : finish.status = 3 → (settings.DocumentUnreadable disk ∧ after = disk) ∨
    settings.AppliesPart environment disk after

/-- The report of a run that applies all targets is the only one. -/
lemma Settings.Applies.unique {settings : Settings} {environment : Environment} {disk after after' : Disk}
    {report report' : Report} (h : settings.Applies environment disk report after)
    (h' : settings.Applies environment disk report' after') : report = report' := by
  obtain ⟨version, targets, ⟨hv, -, hr⟩, hok, -⟩ := h
  obtain ⟨version', targets', ⟨hv', -, hr'⟩, hok', -⟩ := h'
  obtain rfl := Option.some.inj (hv.symm.trans hv')
  obtain rfl := Except.ok.inj (hr.symm.trans hr')
  exact Except.ok.inj (hok.symm.trans hok')

section Statuses

variable {settings : Settings} {reader : Filter.Reader} {environment : Environment}
  {disk after : Disk} {finish : Finish} (hlogs : settings.Logs reader environment)
  (h : run settings reader environment disk = (finish, after))

include hlogs h

lemma course_of_run : Course settings environment disk finish after := by
  have hcourse := course_run hlogs disk
  rw [h] at hcourse
  exact hcourse

/-- Status 0 tells that all targets were applied with a report that is good enough. -/
lemma status_eq_zero_iff : finish.status = 0 ↔
    ∃ report, settings.Applies environment disk report after ∧
      (settings.strict = true → ∀ entry ∈ report, entry.2 ≠ .leadNotFound) := by
  constructor
  · intro hzero
    cases course_of_run hlogs h with
    | finished ha hj hs => exact ⟨_, ha, judge_eq_ok_iff.1 hj⟩
    | _ => omega
  · rintro ⟨report, ha, hgood⟩
    obtain ⟨-, hstatus, -⟩ := run_of_applies hlogs ha
    rw [h] at hstatus
    exact hstatus (judge_eq_ok_iff.2 hgood)

/-- Status 1 tells that something is wrong with the settings or with the document. -/
lemma status_eq_one_iff : finish.status = 1 ↔
    settings.version = none ∨ (∃ fault, settings.check = .error fault) ∨
      settings.DocumentRejected environment disk := by
  constructor
  · intro hone
    cases course_of_run hlogs h with
    | unversioned hv hs => exact .inl hv
    | refused hc hs => exact .inr (.inl ⟨_, hc⟩)
    | rejected hd hs => exact .inr (.inr hd)
    | _ => omega
  · intro hwrong
    have hfinish : (run settings reader environment disk).1 = finish := by rw [h]
    rw [← hfinish]
    cases hv : settings.version with
    | none => simp [run, hv, ending]
    | some version =>
    rw [run_of_logs hv hlogs]
    cases hc : settings.check with
    | error fault => simp [runLogged, hc, ending]
    | ok value =>
    rcases hwrong with hnone | ⟨fault, herror⟩ | hd
    · simp [hv] at hnone
    · simp [hc] at herror
    · obtain ⟨fault, hr, hsev⟩ := hd.exists_resolve
      rw [(runLogged_of_resolve_error version hc hr).1, failureStatus_of_high hsev]

/-- Status 2 tells that all targets were applied in a strict run, and that a line was not found. -/
lemma status_eq_two_iff : finish.status = 2 ↔ settings.strict = true ∧
    ∃ report, settings.Applies environment disk report after ∧
      ∃ entry ∈ report, entry.2 = .leadNotFound := by
  constructor
  · intro htwo
    cases course_of_run hlogs h with
    | lacking ha hj hs hn =>
      obtain ⟨hstrict, before, target, rest, rfl, -, -⟩ := exists_of_judge_eq_error hj
      exact ⟨hstrict, _, ha, (target, .leadNotFound), by simp, rfl⟩
    | _ => omega
  · rintro ⟨hstrict, report, ha, entry, hm, hl⟩
    obtain ⟨-, -, hstatus⟩ := run_of_applies hlogs ha
    rw [h] at hstatus
    cases hj : judge settings.strict report with
    | ok value => exact absurd hl (judge_eq_ok_iff.1 hj hstrict entry hm)
    | error fault =>
      obtain ⟨-, -, target, -, -, -, rfl⟩ := exists_of_judge_eq_error hj
      exact (hstatus _ hj).1

/-- Every status of a run tells what it should. -/
lemma statusTells_of_run : StatusTells settings environment disk finish after where
  status_le := by cases course_of_run hlogs h <;> omega
  zero_iff := status_eq_zero_iff hlogs h
  one_iff := status_eq_one_iff hlogs h
  one_after := by
    intro hone
    cases course_of_run hlogs h with
    | unversioned hv hs => rfl
    | refused hc hs => rfl
    | rejected hd hs => rfl
    | _ => omega
  two_iff := status_eq_two_iff hlogs h
  two_names := by
    intro report htwo happlies
    cases course_of_run hlogs h with
    | lacking ha hj hs hn =>
      obtain ⟨-, before, target, rest, rfl, hbefore, rfl⟩ := exists_of_judge_eq_error hj
      exact ⟨before, target, rest, happlies.unique ha, hbefore, hn⟩
    | _ => omega
  three_after := by
    intro hthree
    cases course_of_run hlogs h with
    | unreadable hd hs => exact .inl ⟨hd, rfl⟩
    | interrupted ha hs => exact .inr ha
    | _ => omega

end Statuses

/-- **The exit status of the version tool tells what happened to the files.** For all arguments that
are accepted, on every disk and in every environment, a run touches nothing but the disk. If it has a
filter for its log, or no version, it ends with one of four statuses, and

* status 0 comes exactly when all targets were applied and, in a strict run, all lines were found;
* status 1 comes exactly when there is no version, the settings are refused or the document of targets
  is rejected, and it leaves the disk as it was;
* status 2 comes exactly when all targets were applied in a strict run and a line was not found, and
  the user is told the first target of which that is true;
* status 3 leaves what the first targets leave, or, if the document of targets cannot be read, the disk
  as it was.

A run with a version breaks off, with status 101 and the disk as it was, if what reads the filter in its
environment does. Arguments that differ in nothing but strictness leave the same disk.

**Proof sketch.** The run takes one of the courses (`course_run`), from which each status tells what it
should (`statusTells_of_run`), or it breaks off (`run_of_not_logs`). Strictness has no influence on what
is left (`run_strict`). -/
theorem status_tells {arguments : List String} {surroundings : Surroundings} {settings : Settings}
    (h : Settings.read arguments = .ok settings) :
    ∃ finish after,
      Tool.version.run arguments surroundings = .ok (finish, { surroundings with disk := after }) ∧
      (settings.Logs surroundings.reader surroundings.environment →
        StatusTells settings surroundings.environment surroundings.disk finish after) ∧
      (¬ settings.Logs surroundings.reader surroundings.environment →
        finish.status = 101 ∧ after = surroundings.disk) ∧
      ∀ arguments' strict, Settings.read arguments' = .ok { settings with strict } →
        ∃ finish', Tool.version.run arguments' surroundings =
          .ok (finish', { surroundings with disk := after }) := by
  obtain ⟨environment, disk, network, reader, printer⟩ := surroundings
  have hrun : ∀ {arguments settings}, Settings.read arguments = .ok settings →
      Tool.version.run arguments ⟨environment, disk, network, reader, printer⟩ =
        .ok ((run settings reader environment disk).1,
          ⟨environment, (run settings reader environment disk).2, network, reader, printer⟩) := by
    intro arguments settings h
    rw [Tool.run, h]
    rfl
  refine ⟨_, _, hrun h, fun hlogs => statusTells_of_run hlogs rfl, fun hlogs => ?_,
    fun arguments' strict h' =>
      ⟨(run { settings with strict } reader environment disk).1, ?_⟩⟩
  · rw [run_of_not_logs hlogs]
    exact ⟨rfl, rfl⟩
  · rw [hrun h', run_strict]

/-- The second of the two release files cannot be written, and the environment asks for all reports: the
run ends with status 3, the first file has the new version, and the same holds if the run is not strict. -/
theorem status_tells_unwritable :
    let installer := "release_building/installer.nsi"
    let folder : Location := ["r", "release_building"]
    let disk : Disk :=
      { entries :=
          [ (["r"], .directory),
            (folder, .directory),
            (folder ++ ["installer.nsi"], .file (Disk.octetsOf "!define VERSION \"0.1.0\"\n")),
            (folder ++ ["win.bat"], .file (Disk.octetsOf "set \"_VERSION_=0.1.0\"\r\n")) ]
        start := ["r"]
        writeFaults := [(folder ++ ["win.bat"], .noEntry)] }
    let surroundings : Surroundings :=
      { environment := Environment.ofPairs [("RUST_LOG", "trace")]
        disk
        network := { interfaces := [] } }
    let settings : Settings :=
      { version := some "0.2.0", root := ".", targets := none, strict := true, logJson := false,
        verbose := false }
    (Settings.read ["0.2.0", "--strict"] = .ok settings ∧
      Settings.read ["0.2.0"] = .ok { settings with strict := false }) ∧
    ∃ finish after,
      (Tool.version.run ["0.2.0", "--strict"] surroundings =
          .ok (finish, { surroundings with disk := after }) ∧
        finish.status = 3 ∧
        after.readText installer = .ok "!define VERSION \"0.2.0\"\n") ∧
      StatusTells settings surroundings.environment disk finish after ∧
      ∃ finish', Tool.version.run ["0.2.0"] surroundings =
        .ok (finish', { surroundings with disk := after }) := by
  intro installer folder disk surroundings settings
  have h : Settings.read ["0.2.0", "--strict"] = .ok settings := by decide +kernel
  have h' : Settings.read ["0.2.0"] = .ok { settings with strict := false } := by decide +kernel
  have hanswers : surroundings.reader.Answers surroundings.environment := by
    rintro text htext
    obtain rfl := Option.some.inj ((by decide : surroundings.environment.get? "RUST_LOG" =
      some "trace").symm.trans htext)
    decide +kernel
  have hend : (Tool.version.run ["0.2.0", "--strict"] surroundings).map
      (fun e => (e.1.status, e.2.disk.readText installer)) =
        .ok (3, .ok "!define VERSION \"0.2.0\"\n") := by decide +kernel
  obtain ⟨finish, after, hrun, htells, -, hsame⟩ := @status_tells _ surroundings _ h
  rw [hrun] at hend
  obtain ⟨hstatus, htext⟩ := Prod.mk.inj (Except.ok.inj hend)
  exact ⟨⟨h, h'⟩, finish, after, ⟨hrun, hstatus, htext⟩, htells fun _ => hanswers, hsame _ _ h'⟩

end Workbench.VersionTool
