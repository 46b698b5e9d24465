import Workbench.Proofs.Version.Separation
import Workbench.Proofs.Version.WholeRun

set_option relaxedAutoImplicit false
set_option autoImplicit false

/-!
# The last version counts

Targets that are apart find different lines, whatever version is written: a patch leaves its lead at
the start of the line, so it neither takes a line from another target nor gives it one. Patches of
different targets therefore commute, and of two patches of one target the later one counts. So after
any number of runs the texts are those that the last one alone would leave, and running it once more
changes nothing.

## Main definitions

* `Workbench.Target.Apart` — targets that find no common line.
* `Workbench.Target.finds` — whether there is a line for a target.
* `Workbench.Outcome.settled`, `Workbench.Target.settled` — what is reported once a line is as it
  should be.
* `Workbench.MemoryStore.applyAll` — runs for several versions, one after the other.

## Main results

* `Workbench.Texts.patch_patch`, `Workbench.Texts.patch_comm` — the laws of patching texts.
* `Workbench.Texts.patchAll_patchAll` — of two runs the later one counts.
* `Workbench.MemoryStore.exists_report` — the report of a run in which nothing fails.
* `Workbench.applyVersion_last` — of any number of runs the last one counts.
-/

namespace Workbench

open Text (Line lines)

/-! ### Targets that are apart -/

/-- Targets that find no common line: they have different paths, or neither lead starts with the
other one. -/
def Target.Apart (a b : Target) : Prop :=
  a.path = b.path → ¬ a.lead.toList <+: b.lead.toList ∧ ¬ b.lead.toList <+: a.lead.toList

instance : DecidableRel Target.Apart := fun _ _ => inferInstanceAs (Decidable (_ → _))

lemma Target.Apart.symm {a b : Target} (h : a.Apart b) : b.Apart a :=
  fun he => (h he.symm).symm

/-- Targets of a list of which any two are apart are the same or apart. -/
lemma eq_or_apart_of_mem {targets : List Target} (h : targets.Pairwise Target.Apart) {a b : Target}
    (ha : a ∈ targets) (hb : b ∈ targets) : a = b ∨ a.Apart b := by
  induction targets with
  | nil => simp at ha
  | cons target targets ih =>
    obtain ⟨hfirst, hrest⟩ := List.pairwise_cons.1 h
    rcases List.mem_cons.1 ha with ha | ha <;> rcases List.mem_cons.1 hb with hb | hb
    · exact .inl (ha.trans hb.symm)
    · exact .inr (ha ▸ hfirst b hb)
    · exact .inr (hb ▸ (hfirst a ha).symm)
    · exact ih hrest ha hb

/-! ### Patches of one text -/

section OneText

variable {field v w : String} (hv : Check.version field v = .ok ())
  (hw : Check.version field w = .ok ())

include hv hw in
/-- Of two patches of one target the later one counts. -/
lemma Target.patch_patch {target : Target} (hp : target.TailIsPlain) (text : String) :
    (target.patch w (target.patch v text).1).1 = (target.patch w text).1 := by
  refine String.toList_inj.1 (Text.lines_injective ?_)
  rw [lines_patch target hp hw, lines_patch target hp hv, lines_patch target hp hw]
  exact rewriteFirst_rewriteFirst (target.lead_prefix_line v) _

include hv in
/-- A patch leaves a line for each lead that found one, if the leads are the same or apart. -/
lemma Target.isSome_found?_patch {a b : Target} (ha : a.TailIsPlain)
    (hab : a = b ∨ ¬ a.lead.toList <+: b.lead.toList ∧ ¬ b.lead.toList <+: a.lead.toList)
    (text : String) :
    (b.found? (a.patch v text).1).isSome = (b.found? text).isSome := by
  unfold found?
  rw [lines_patch a ha hv, rewrite]
  rcases hab with rfl | ⟨hab, hba⟩
  · rw [find?_rewriteFirst (a.lead_prefix_line v), Option.isSome_map]
  · rw [find?_rewriteFirst_of_apart hab hba (a.lead_prefix_line v)]

end OneText

/-! ### Patches of texts -/

/-- Whether the lead of a target finds a line in the text at its path. -/
def Target.finds (target : Target) (texts : Texts) : Bool :=
  ((texts.get? target.path).bind target.found?).isSome

namespace Texts

/-- Patches of targets that are apart commute.

**Proof sketch.** At different paths this is `patch_comm_of_path_ne`. At one path their patches of the
text commute. -/
theorem patch_comm {a b : Target} {v w : String} (ha : '\n' ∉ a.tailChars) (hb : '\n' ∉ b.tailChars)
    (hv : '\n' ∉ v.toList) (hw : '\n' ∉ w.toList) (hab : a.Apart b) (texts : Texts) :
    (texts.patch v a).patch w b = (texts.patch w b).patch v a := by
  by_cases hpath : a.path = b.path
  · obtain ⟨hlead, hlead'⟩ := hab hpath
    cases h : texts.get? b.path with
    | none =>
      have ha' : texts.get? a.path = none := hpath ▸ h
      rw [patch_of_none ha', patch_of_none h, patch_of_none ha']
    | some text =>
      have ha' : texts.get? a.path = some text := hpath ▸ h
      have hreada : (texts.patch v a).get? b.path = some (a.patch v text).1 := by
        rw [← hpath, get?_patch, ha']
        rfl
      have hreadb : (texts.patch w b).get? a.path = some (b.patch w text).1 := by
        rw [hpath, get?_patch, h]
        rfl
      rw [patch_of_some hreada, patch_of_some ha', patch_of_some hreadb, patch_of_some h, hpath,
        put_put, put_put, Target.patch_comm hlead hlead' ha hb hv hw]
  · exact patch_comm_of_path_ne hpath texts

variable {field v w : String} (hv : Check.version field v = .ok ())
  (hw : Check.version field w = .ok ())

include hv hw in
/-- Of two patches of one target the later one counts. -/
theorem patch_patch {target : Target} (hp : target.TailIsPlain) (texts : Texts) :
    (texts.patch v target).patch w target = texts.patch w target := by
  cases h : texts.get? target.path with
  | none => rw [patch_of_none h]
  | some text =>
    have hread : (texts.patch v target).get? target.path = some (target.patch v text).1 := by
      rw [get?_patch, h]
      rfl
    rw [patch_of_some hread, Target.patch_patch hv hw hp, patch_of_some h, put_put, patch_of_some h]

include hv hw in
/-- A patch of a target that is apart from all targets of a list can be made before theirs. -/
lemma patchAll_patch {a : Target} {targets : List Target} (ha : a.TailIsPlain)
    (hp : ∀ b ∈ targets, b.TailIsPlain) (hab : ∀ b ∈ targets, a.Apart b) (texts : Texts) :
    (texts.patchAll v targets).patch w a = (texts.patch w a).patchAll v targets := by
  induction targets generalizing texts with
  | nil => rfl
  | cons b targets ih =>
    have hcomm : (texts.patch v b).patch w a = (texts.patch w a).patch v b :=
      patch_comm (b.lineFeed_notMem_of_tailIsPlain (hp b (by simp)))
        (a.lineFeed_notMem_of_tailIsPlain ha) (Check.lineFeed_notMem_of_version hv)
        (Check.lineFeed_notMem_of_version hw) (hab b (by simp)).symm texts
    rw [patchAll_cons, ih (fun t ht => hp t (by simp [ht])) (fun t ht => hab t (by simp [ht])),
      hcomm, patchAll_cons]

include hv hw in
/-- **Of two runs the later one counts.**

**Proof sketch.** Induction on the targets. The later patch of the first target is apart from the
earlier patches of the others, so it can be made right after the earlier patch of the same target,
which it undoes. -/
theorem patchAll_patchAll {targets : List Target} (hp : ∀ target ∈ targets, target.TailIsPlain)
    (hapart : targets.Pairwise Target.Apart) (texts : Texts) :
    (texts.patchAll v targets).patchAll w targets = texts.patchAll w targets := by
  induction targets generalizing texts with
  | nil => rfl
  | cons a targets ih =>
    obtain ⟨hfirst, hrest⟩ := List.pairwise_cons.1 hapart
    have ha : a.TailIsPlain := hp a (by simp)
    have hp' : ∀ target ∈ targets, target.TailIsPlain := fun t ht => hp t (by simp [ht])
    rw [patchAll_cons, patchAll_cons, patchAll_patch hv hw ha hp' hfirst, patch_patch hv hw ha,
      ih hp' hrest, patchAll_cons]

include hv in
/-- After a run every one of its patches is made. -/
lemma patch_patchAll_of_mem {targets : List Target} (hp : ∀ target ∈ targets, target.TailIsPlain)
    (hapart : targets.Pairwise Target.Apart) {target : Target} (hm : target ∈ targets)
    (texts : Texts) :
    (texts.patchAll v targets).patch v target = texts.patchAll v targets := by
  induction targets generalizing texts with
  | nil => simp at hm
  | cons a targets ih =>
    obtain ⟨hfirst, hrest⟩ := List.pairwise_cons.1 hapart
    have hp' : ∀ target ∈ targets, target.TailIsPlain := fun t ht => hp t (by simp [ht])
    rw [patchAll_cons]
    rcases List.mem_cons.1 hm with rfl | hm
    · have ha : target.TailIsPlain := hp target (by simp)
      rw [patchAll_patch hv hv ha hp' hfirst, patch_patch hv hv ha]
    · exact ih hp' hrest hm _

include hv in
/-- A patch leaves what the targets find that are the same or apart. -/
lemma finds_patch {a b : Target} (ha : a.TailIsPlain) (hab : a = b ∨ a.Apart b) (texts : Texts) :
    b.finds (texts.patch v a) = b.finds texts := by
  unfold Target.finds
  by_cases hpath : a.path = b.path
  · have hlead : a = b ∨ ¬ a.lead.toList <+: b.lead.toList ∧ ¬ b.lead.toList <+: a.lead.toList :=
      hab.imp_right (· hpath)
    rw [← hpath, get?_patch]
    cases texts.get? a.path with
    | none => rfl
    | some text => exact Target.isSome_found?_patch hv ha hlead text
  · rw [get?_patch_ne hpath]

include hv in
/-- A run leaves what its targets find. -/
lemma finds_patchAll {targets : List Target} (hp : ∀ target ∈ targets, target.TailIsPlain)
    {target : Target} (h : ∀ a ∈ targets, a = target ∨ a.Apart target) (texts : Texts) :
    target.finds (texts.patchAll v targets) = target.finds texts := by
  induction targets generalizing texts with
  | nil => rfl
  | cons a targets ih =>
    rw [patchAll_cons, ih (fun t ht => hp t (by simp [ht])) (fun t ht => h t (by simp [ht])),
      finds_patch hv (hp a (by simp)) (h a (by simp))]

end Texts

/-! ### Reports -/

/-- What is reported once a line is as it should be. -/
def Outcome.settled : Outcome → Outcome
  | .updated line => .unchanged line
  | .unchanged line => .unchanged line
  | .leadNotFound => .leadNotFound

/-- What is reported for a target whose line, if any, is as it should be. -/
def Target.settled (version : String) (texts : Texts) (target : Target) : Outcome :=
  if target.finds texts then .unchanged (target.line version) else .leadNotFound

/-- The settled outcome of a step depends on whether the lead finds a line only. -/
lemma Step.settled_outcome {version : String} {texts : Texts} {step : Step}
    (h : texts.get? step.target.path = some step.text) :
    (step.outcome version).settled = step.target.settled version texts := by
  have hfinds : step.target.finds texts = (step.target.found? step.text).isSome := by
    rw [Target.finds, h]
    rfl
  rw [outcome, Target.patch_eq, Target.settled, hfinds]
  cases step.target.found? step.text with
  | none => rfl
  | some line =>
    by_cases hc : line.content = (step.target.line version).toList
    · simp [Target.outcomeAt, hc, Outcome.settled]
    · simp [Target.outcomeAt, hc, Outcome.settled]

/-- The outcome of a step that writes nothing is settled. -/
lemma Step.settled_outcome_of_writes {version : String} {step : Step}
    (h : step.writes version = []) : (step.outcome version).settled = step.outcome version := by
  have hsame : (step.target.patch version step.text).1 = step.text := by
    by_contra hne
    have hwrites : step.writes version = [(step.target.path, step.patched version)] := if_neg hne
    rw [hwrites] at h
    simp at h
  cases ho : step.outcome version with
  | updated line =>
    have hline : line = step.target.line version := eq_line_of_updated version ho
    exact absurd (hline ▸ ho) (step.target.patch_fst_eq_iff.1 hsame)
  | unchanged line => rfl
  | leadNotFound => rfl

namespace MemoryStore

variable {memory : MemoryStore} {version : String}

/-- The settled outcomes of completed steps depend on what the targets find at the start. -/
lemma settled_of_completes {field : String} (hv : Check.version field version = .ok ())
    {steps : List Step} {texts : Texts} (hp : ∀ step ∈ steps, step.target.TailIsPlain)
    (hapart : (steps.map Step.target).Pairwise Target.Apart)
    (h : memory.Completes version texts steps) :
    ∀ step ∈ steps, (step.outcome version).settled = step.target.settled version texts := by
  induction steps generalizing texts with
  | nil => simp
  | cons first steps ih =>
    obtain ⟨-, ht, -, hrest⟩ := h
    obtain ⟨hfirst, hapart⟩ := List.pairwise_cons.1 hapart
    intro step hm
    rcases List.mem_cons.1 hm with rfl | hm
    · exact Step.settled_outcome ht
    · rw [ih (fun s hs => hp s (by simp [hs])) hapart hrest step hm, Texts.putAll_writes ht,
        Target.settled, Target.settled, Texts.finds_patch hv (hp first (by simp))]
      exact .inr (hfirst _ (List.mem_map_of_mem hm))

/-- Steps of patches that are made already write nothing. -/
lemma writes_eq_nil_of_completes {steps : List Step} {texts : Texts}
    (hfixed : ∀ step ∈ steps, texts.patch version step.target = texts)
    (h : memory.Completes version texts steps) : ∀ step ∈ steps, step.writes version = [] := by
  induction steps with
  | nil => simp
  | cons first steps ih =>
    obtain ⟨-, ht, -, hrest⟩ := h
    have hpatch : (first.target.patch version first.text).1 = first.text := by
      have hread : (texts.patch version first.target).get? first.target.path = _ :=
        Texts.get?_patch texts first.target
      rw [hfixed first (by simp), ht] at hread
      exact (Option.some.inj hread).symm
    have hfirst : first.writes version = [] := if_pos hpatch
    rw [hfirst] at hrest
    intro step hm
    rcases List.mem_cons.1 hm with rfl | hm
    · exact hfirst
    · exact ih (fun s hs => hfixed s (by simp [hs])) hrest step hm

/-! ### Runs one after the other -/

/-- The store after runs for several versions, one after the other. -/
def applyAll (targets : List Target) (versions : List String) (memory : MemoryStore) : MemoryStore :=
  versions.foldl (fun memory version => (applyVersion store version targets memory).after) memory

/-- Runs in which nothing fails leave texts over which nothing fails. -/
lemma isFaultFree_applyAll {targets : List Target} (versions : List String)
    (hf : memory.IsFaultFree) (hh : memory.Holds targets) :
    (memory.applyAll targets versions).IsFaultFree ∧
      (memory.applyAll targets versions).Holds targets := by
  induction versions generalizing memory with
  | nil => exact ⟨hf, hh⟩
  | cons version versions ih =>
    obtain ⟨hf', hh'⟩ := isFaultFree_applyVersion version hf hh
    exact ih hf' hh'

/-- **Of any number of runs the last one counts.**

**Proof sketch.** Induction on the earlier versions. The run for the first of them patches all texts,
and the last run undoes that (`Texts.patchAll_patchAll`). -/
theorem texts_applyAll {targets : List Target} {field last : String} {earlier : List String}
    (hf : memory.IsFaultFree) (hh : memory.Holds targets)
    (hp : ∀ target ∈ targets, target.TailIsPlain) (hapart : targets.Pairwise Target.Apart)
    (hv : ∀ version ∈ earlier ++ [last], Check.version field version = .ok ()) :
    (memory.applyAll targets (earlier ++ [last])).texts = memory.texts.patchAll last targets := by
  induction earlier generalizing memory with
  | nil => exact texts_applyVersion hf hh
  | cons version earlier ih =>
    obtain ⟨hf', hh'⟩ := isFaultFree_applyVersion version hf hh
    have hrest := ih hf' hh' fun v hm => hv v (by simp_all)
    rw [List.cons_append]
    refine hrest.trans ?_
    rw [texts_applyVersion hf hh,
      Texts.patchAll_patchAll (hv version (by simp)) (hv last (by simp)) hp hapart]

/-- **A run over texts with all patches made** reads and writes nothing, and reports so. -/
theorem applyVersion_of_fixed {targets : List Target} {field : String}
    (hv : Check.version field version = .ok ()) (hf : memory.IsFaultFree)
    (hh : memory.Holds targets) (hp : ∀ target ∈ targets, target.TailIsPlain)
    (hapart : targets.Pairwise Target.Apart)
    (hfixed : ∀ target ∈ targets, memory.texts.patch version target = memory.texts) :
    (applyVersion store version targets memory).after =
        { memory with calls := memory.calls ++ targets.map fun target => .read target.path } ∧
      (applyVersion store version targets memory).result =
        .ok (targets.map fun target => (target, target.settled version memory.texts)) := by
  obtain ⟨steps, rfl, hsteps⟩ := exists_completes_all version hf hh
  have hwrites : ∀ step ∈ steps, step.writes version = [] :=
    writes_eq_nil_of_completes (fun step hm => hfixed _ (List.mem_map_of_mem hm)) hsteps
  have hsettled := settled_of_completes hv
    (fun step hm => hp _ (List.mem_map_of_mem hm)) hapart hsteps
  have hnone : steps.flatMap (Step.writes version) = [] := List.flatMap_eq_nil_iff.2 hwrites
  have hcalls : steps.flatMap (Step.calls version) =
      steps.map fun step => Call.read step.target.path := by
    rw [List.map_eq_flatMap]
    exact List.flatMap_congr fun step hm => by simp [Step.calls, hwrites step hm]
  have hentries : steps.map (Step.entry version) =
      steps.map fun step => (step.target, step.target.settled version memory.texts) := by
    refine List.map_congr_left fun step hm => ?_
    rw [Step.entry, ← hsettled step hm, Step.settled_outcome_of_writes (hwrites step hm)]
  rw [applyVersion_of_completes hsteps]
  constructor
  · simp [afterSteps, hnone, hcalls, Texts.putAll, Function.comp_def]
  · simp [hentries, Function.comp_def]

/-- **The report of a run in which nothing fails** has every target with its outcome, which depends, up
to whether the line was changed, on what the target finds before the run. -/
theorem exists_report {targets : List Target} {field : String}
    (hv : Check.version field version = .ok ()) (hf : memory.IsFaultFree)
    (hh : memory.Holds targets) (hp : ∀ target ∈ targets, target.TailIsPlain)
    (hapart : targets.Pairwise Target.Apart) :
    ∃ report, (applyVersion store version targets memory).result = .ok report ∧
      (report.map fun entry => (entry.1, entry.2.settled)) =
        targets.map fun target => (target, target.settled version memory.texts) := by
  obtain ⟨steps, rfl, hsteps⟩ := exists_completes_all version hf hh
  have hsettled := settled_of_completes hv
    (fun step hm => hp _ (List.mem_map_of_mem hm)) hapart hsteps
  refine ⟨steps.map (Step.entry version), ?_, ?_⟩
  · exact congrArg Work.result (applyVersion_of_completes hsteps)
  · rw [List.map_map, List.map_map]
    refine List.map_congr_left fun step hm => ?_
    simp [Step.entry, hsettled step hm]

end MemoryStore

/-- **Of any number of runs the last one counts, and running it once more changes nothing.** Over
texts over which nothing fails, for targets with plain tails of which any two are apart, runs for
accepted versions leave the texts that the last one alone leaves. One more run for that version calls
for the readings only. It reports the line that the last run has reported for each target that finds
one, in the texts before all runs, and reports all other targets as not found.

**Proof sketch.** The texts are those of `MemoryStore.texts_applyAll`. In these all patches are made,
so one more run is that of `MemoryStore.applyVersion_of_fixed`. What the targets find is the same
before and after each run (`Texts.finds_patchAll`), hence the reports agree
(`MemoryStore.exists_report`). -/
theorem applyVersion_last {memory : MemoryStore} {targets : List Target} {field last : String}
    {earlier : List String} (hf : memory.IsFaultFree) (hh : memory.Holds targets)
    (hp : ∀ target ∈ targets, target.TailIsPlain) (hapart : targets.Pairwise Target.Apart)
    (hv : ∀ version ∈ earlier ++ [last], Check.version field version = .ok ()) :
    let run := applyVersion MemoryStore.store last targets (memory.applyAll targets earlier)
    let again := applyVersion MemoryStore.store last targets run.after
    run.after = memory.applyAll targets (earlier ++ [last]) ∧
      run.after.texts = (applyVersion MemoryStore.store last targets memory).after.texts ∧
      again.after =
        { run.after with calls := run.after.calls ++ targets.map fun target => .read target.path } ∧
      again.result = .ok (targets.map fun target => (target, target.settled last memory.texts)) ∧
      ∃ report, run.result = .ok report ∧
        again.result = .ok (report.map fun entry => (entry.1, entry.2.settled)) := by
  intro run again
  have hlast : Check.version field last = .ok () := hv last (by simp)
  have hrun : run.after = memory.applyAll targets (earlier ++ [last]) := by
    simp [run, MemoryStore.applyAll]
  have htexts : run.after.texts = memory.texts.patchAll last targets := by
    rw [hrun]
    exact MemoryStore.texts_applyAll hf hh hp hapart hv
  -- what the targets find is the same in all texts
  obtain ⟨hfbefore, hhbefore⟩ := MemoryStore.isFaultFree_applyAll earlier hf hh
  have hfinds : ∀ texts : Texts, ∀ target ∈ targets,
      target.settled last (texts.patchAll last targets) = target.settled last texts := by
    intro texts target hm
    rw [Target.settled, Target.settled,
      Texts.finds_patchAll hlast hp fun a ha => eq_or_apart_of_mem hapart ha hm]
  have hafterwards : ∀ target ∈ targets, target.settled last run.after.texts =
      target.settled last memory.texts := fun target hm => by rw [htexts, hfinds _ target hm]
  have hbefore : ∀ target ∈ targets, target.settled last (memory.applyAll targets earlier).texts =
      target.settled last memory.texts := by
    intro target hm
    rw [← hfinds _ target hm, ← MemoryStore.texts_applyVersion hfbefore hhbefore]
    exact hafterwards target hm
  -- the last run, and the same once more
  obtain ⟨report, hreport, hsettled⟩ :=
    MemoryStore.exists_report hlast hfbefore hhbefore hp hapart
  obtain ⟨hfrun, hhrun⟩ := MemoryStore.isFaultFree_applyAll (earlier ++ [last]) hf hh
  rw [← hrun] at hfrun hhrun
  obtain ⟨hafter, hresult⟩ := MemoryStore.applyVersion_of_fixed hlast hfrun hhrun hp hapart
    fun target hm => by rw [htexts, Texts.patch_patchAll_of_mem hlast hp hapart hm]
  have hagain : again.result =
      .ok (targets.map fun target => (target, target.settled last memory.texts)) := by
    refine hresult.trans (congrArg Except.ok (List.map_congr_left fun target hm => ?_))
    rw [hafterwards target hm]
  refine ⟨hrun, by rw [htexts, MemoryStore.texts_applyVersion hf hh], hafter, hagain, report,
    hreport, ?_⟩
  rw [hagain, hsettled]
  exact congrArg Except.ok (List.map_congr_left fun target hm => by rw [hbefore target hm])

/-- The release files, taken through two versions: only the second one is left. -/
theorem builtin_applyVersion_last :
    let memory : MemoryStore := { texts :=
      [("release_building/installer.nsi", "!define VERSION \"0.1.0\"\nOutFile a.exe\n"),
        ("release_building/win.bat", "@echo off\r\nset \"_VERSION_=0.1.0\"\r\n")] }
    (memory.IsFaultFree ∧ memory.Holds Target.builtin ∧
      (∀ target ∈ Target.builtin, target.TailIsPlain) ∧ Target.builtin.Pairwise Target.Apart ∧
      ∀ version ∈ ["0.2.0"] ++ ["0.10.0"], Check.version "version" version = .ok ()) ∧
    (memory.applyAll Target.builtin ["0.2.0", "0.10.0"]).texts =
      (applyVersion MemoryStore.store "0.10.0" Target.builtin memory).after.texts := by
  intro memory
  have hf : memory.IsFaultFree := ⟨rfl, rfl⟩
  have hh : memory.Holds Target.builtin := by decide
  have hp : ∀ target ∈ Target.builtin, target.TailIsPlain := by decide
  have hv : ∀ version ∈ ["0.2.0"] ++ ["0.10.0"], Check.version "version" version = .ok () := by
    simp only [List.cons_append, List.nil_append, List.forall_mem_cons]
    exact ⟨rfl, rfl, by simp⟩
  have hapart : Target.builtin.Pairwise Target.Apart := by decide
  obtain ⟨hrun, htexts, -⟩ := applyVersion_last hf hh hp hapart hv
  exact ⟨⟨hf, hh, hp, hapart, hv⟩, (congrArg MemoryStore.texts hrun).symm.trans htexts⟩

end Workbench
