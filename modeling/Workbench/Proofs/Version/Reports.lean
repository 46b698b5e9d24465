import Workbench.Proofs.Version.LastVersion

set_option relaxedAutoImplicit false
set_option autoImplicit false

/-!
# Reports are true of the files

A report says of each target what became of its line when its turn came. Later targets may patch the
same file, so what was true then need not be true at the end. For targets that are apart it is: a
patch leaves, for every lead apart from its own, the first line that the lead finds. What is reported
of a target is therefore true after its own step and stays true through the rest of the run.

## Main definitions

* `Workbench.Outcome.IsTrueOf` — what an outcome says about the lines of a text.
* `Workbench.Target.Bears` — what an outcome says about the file of a target.

## Main results

* `Workbench.Texts.bears_patch_self` — after its step a target bears its outcome.
* `Workbench.Texts.bears_patch`, `Workbench.Texts.bears_patchAll` — later steps keep that.
* `Workbench.report_isTrue` — the report of a run is true of the texts that the run leaves.
-/

namespace Workbench

open Text (Line lines)

/-! ### What outcomes say -/

/-- What an outcome says about the lines of a text: the first one that starts with the lead has the
reported line as its content, or no line starts with the lead. -/
def Outcome.IsTrueOf (lead : List Char) (ls : List Line) : Outcome → Prop
  | .updated line | .unchanged line =>
    ∃ first, ls.find? (Line.startsWith lead) = some first ∧ first.content = line.toList
  | .leadNotFound => ∀ line ∈ ls, ¬ lead <+: line.content

/-- What an outcome says depends on the first line that the lead finds only. -/
lemma Outcome.isTrueOf_congr {lead : List Char} {ls ls' : List Line} {outcome : Outcome}
    (h : ls.find? (Line.startsWith lead) = ls'.find? (Line.startsWith lead)) :
    outcome.IsTrueOf lead ls ↔ outcome.IsTrueOf lead ls' := by
  have hnone : ∀ ls : List Line, Outcome.leadNotFound.IsTrueOf lead ls ↔
      ls.find? (Line.startsWith lead) = none := by
    intro ls
    rw [List.find?_eq_none]
    exact forall₂_congr fun line _ => not_congr startsWith_iff.symm
  cases outcome with
  | updated line => rw [IsTrueOf, IsTrueOf, h]
  | unchanged line => rw [IsTrueOf, IsTrueOf, h]
  | leadNotFound => rw [hnone, hnone, h]

namespace Target

/-- The file of a target is there, and its text is as the outcome says. -/
def Bears (target : Target) (outcome : Outcome) (texts : Texts) : Prop :=
  ∃ text, texts.get? target.path = some text ∧
    outcome.IsTrueOf target.lead.toList (lines text.toList)

variable {field version : String} (hv : Check.version field version = .ok ())

include hv in
/-- What a patch reports is true of the patched text. -/
lemma isTrueOf_patch {target : Target} (hp : target.TailIsPlain) (text : String) :
    (target.patch version text).2.IsTrueOf target.lead.toList
      (lines (target.patch version text).1.toList) := by
  have hfind := find?_rewriteFirst (target.lead_prefix_line version) (lines text.toList)
  have hout : (target.patch version text).2 = target.outcomeAt version (target.found? text) := by
    rw [patch_eq]
  rw [lines_patch target hp hv, rewrite, hout, found?]
  cases hl : (lines text.toList).find? (Line.startsWith target.lead.toList) with
  | none =>
    rw [hl, Option.map_none, List.find?_eq_none] at hfind
    exact fun line hm hs => hfind line hm (startsWith_iff.2 hs)
  | some line =>
    rw [hl, Option.map_some] at hfind
    by_cases hc : line.content = (target.line version).toList
    · rw [outcomeAt, if_pos hc]
      exact ⟨_, hfind, rfl⟩
    · rw [outcomeAt, if_neg hc]
      exact ⟨_, hfind, rfl⟩

end Target

/-! ### Patches of texts -/

namespace Texts

variable {field version : String} (hv : Check.version field version = .ok ())

include hv in
/-- After its patch a target bears what the patch reports. -/
lemma bears_patch_self {texts : Texts} {target : Target} {text : String} (hp : target.TailIsPlain)
    (h : texts.get? target.path = some text) :
    target.Bears (target.patch version text).2 (texts.patch version target) := by
  refine ⟨(target.patch version text).1, ?_, Target.isTrueOf_patch hv hp text⟩
  rw [get?_patch, h]
  rfl

include hv in
/-- **What a target bears it bears after the patch of a target apart from it.** -/
theorem bears_patch {texts : Texts} {a b : Target} {outcome : Outcome} (ha : a.TailIsPlain)
    (hab : a.Apart b) (h : b.Bears outcome texts) : b.Bears outcome (texts.patch version a) := by
  obtain ⟨text, hread, htrue⟩ := h
  by_cases hpath : a.path = b.path
  · obtain ⟨hlead, hlead'⟩ := hab hpath
    have hfound : b.found? (a.patch version text).1 = b.found? text :=
      Target.found?_patch_of_apart hlead hlead' (a.lineFeed_notMem_of_tailIsPlain ha)
        (Check.lineFeed_notMem_of_version hv) text
    refine ⟨(a.patch version text).1, ?_, ?_⟩
    · rw [← hpath, get?_patch, hpath, hread]
      rfl
    · exact (Outcome.isTrueOf_congr hfound).2 htrue
  · exact ⟨text, (get?_patch_ne hpath texts).trans hread, htrue⟩

include hv in
/-- What a target bears it bears after the patches of any targets apart from it. -/
lemma bears_patchAll {targets : List Target} {b : Target} {outcome : Outcome}
    (hp : ∀ a ∈ targets, a.TailIsPlain) (hab : ∀ a ∈ targets, a.Apart b) {texts : Texts}
    (h : b.Bears outcome texts) : b.Bears outcome (texts.patchAll version targets) := by
  induction targets generalizing texts with
  | nil => exact h
  | cons a targets ih =>
    rw [patchAll_cons]
    refine ih (fun t ht => hp t (by simp [ht])) (fun t ht => hab t (by simp [ht])) ?_
    exact bears_patch hv (hp a (by simp)) (hab a (by simp)) h

end Texts

/-! ### Runs -/

namespace MemoryStore

variable {memory : MemoryStore} {version : String}

/-- At the end of completed steps every target bears the outcome of its step.

**Proof sketch.** Induction on the steps. The first target bears its outcome after its own step, and
the patches of the others, which are apart from it, keep that. -/
lemma bears_of_completes {field : String} (hv : Check.version field version = .ok ())
    {steps : List Step} (hp : ∀ step ∈ steps, step.target.TailIsPlain)
    (hapart : (steps.map Step.target).Pairwise Target.Apart) {texts : Texts}
    (h : memory.Completes version texts steps) :
    ∀ step ∈ steps, step.target.Bears (step.outcome version)
      (texts.patchAll version (steps.map Step.target)) := by
  induction steps generalizing texts with
  | nil => simp
  | cons first steps ih =>
    obtain ⟨-, ht, -, hrest⟩ := h
    obtain ⟨hfirst, hapart⟩ := List.pairwise_cons.1 hapart
    rw [Texts.putAll_writes ht] at hrest
    intro step hm
    rw [List.map_cons, Texts.patchAll_cons]
    rcases List.mem_cons.1 hm with rfl | hm
    · refine Texts.bears_patchAll hv (fun a ha => ?_) (fun a ha => (hfirst a ha).symm) ?_
      · obtain ⟨other, ho, rfl⟩ := List.mem_map.1 ha
        exact hp other (by simp [ho])
      · exact Texts.bears_patch_self hv (hp step (by simp)) ht
    · exact ih (fun s hs => hp s (by simp [hs])) hapart hrest step hm

/-- A run that answers a report has completed the steps of all targets. -/
lemma exists_completes_of_ok {targets : List Target} {report : Report}
    (h : (applyVersion store version targets memory).result = .ok report) :
    ∃ steps, steps.map Step.target = targets ∧ memory.Completes version memory.texts steps ∧
      report = steps.map (Step.entry version) := by
  obtain ⟨steps, hsteps, rfl | ⟨target, rest, last, fault, rfl, hfails⟩⟩ :=
    memory.exists_completes version targets memory.texts
  · rw [applyVersion_of_completes hsteps] at h
    exact ⟨steps, rfl, hsteps, (Except.ok.inj h).symm⟩
  · rw [applyVersion_of_fails hsteps hfails] at h
    simp at h

end MemoryStore

/-- **The report of a run is true of the texts that the run leaves.** For targets with plain tails of
which any two are apart and an accepted version, a run that answers a report names every target in it,
in order. In the texts at its end the first line that starts with the lead of a target has the
reported line as its content, and no line starts with the lead of a target that is reported as not
found. Calls may be refused, as long as the run gets past them.

**Proof sketch.** A run that answers a report has completed the steps of all targets
(`MemoryStore.exists_completes_of_ok`), hence has patched all their texts, and each target bears the
outcome of its step (`MemoryStore.bears_of_completes`). -/
theorem report_isTrue {memory : MemoryStore} {targets : List Target} {field version : String}
    {report : Report} (hp : ∀ target ∈ targets, target.TailIsPlain)
    (hapart : targets.Pairwise Target.Apart) (hv : Check.version field version = .ok ())
    (h : (applyVersion MemoryStore.store version targets memory).result = .ok report) :
    report.map Prod.fst = targets ∧
      ∀ entry ∈ report, entry.1.Bears entry.2
        (applyVersion MemoryStore.store version targets memory).after.texts := by
  obtain ⟨steps, rfl, hsteps, rfl⟩ := MemoryStore.exists_completes_of_ok h
  have hafter : (applyVersion MemoryStore.store version (steps.map Step.target) memory).after.texts =
      memory.texts.patchAll version (steps.map Step.target) := by
    rw [MemoryStore.applyVersion_of_completes hsteps]
    exact MemoryStore.putAll_flatMap_writes hsteps
  refine ⟨by simp [Step.entry, Function.comp_def], fun entry hm => ?_⟩
  obtain ⟨step, hstep, rfl⟩ := List.mem_map.1 hm
  rw [hafter]
  exact MemoryStore.bears_of_completes hv (fun s hs => hp _ (List.mem_map_of_mem hs)) hapart hsteps
    step hstep

/-- Three targets in two files of which one cannot be written: its line is as it should be, so that the
run gets past it. One line is changed, one stays and one is not found. -/
theorem report_isTrue_shared_file :
    let targets : List Target :=
      [⟨"a", "x=", .bare, none⟩, ⟨"b", "v ", .quoted, some ";"⟩, ⟨"a", "y=", .bare, none⟩]
    let memory : MemoryStore :=
      { texts := [("a", "z\r\nx=1\r\nx=2\n"), ("b", "v \"3\";")]
        writeFaults := [("b", .file .noEntry)] }
    let report : Report :=
      [(⟨"a", "x=", .bare, none⟩, .updated "x=3"),
        (⟨"b", "v ", .quoted, some ";"⟩, .unchanged "v \"3\";"),
        (⟨"a", "y=", .bare, none⟩, .leadNotFound)]
    ((∀ target ∈ targets, target.TailIsPlain) ∧ targets.Pairwise Target.Apart ∧
      Check.version "version" "3" = .ok () ∧
      (applyVersion MemoryStore.store "3" targets memory).result = .ok report) ∧
    ∀ entry ∈ report, entry.1.Bears entry.2
      (applyVersion MemoryStore.store "3" targets memory).after.texts := by
  intro targets memory report
  have hp : ∀ target ∈ targets, target.TailIsPlain := by decide
  have hapart : targets.Pairwise Target.Apart := by decide
  have hv : Check.version "version" "3" = .ok () := rfl
  have h : (applyVersion MemoryStore.store "3" targets memory).result = .ok report := by decide +kernel
  exact ⟨⟨hp, hapart, hv, h⟩, (report_isTrue hp hapart hv h).2⟩

end Workbench
