import Workbench.Proofs.Version.LastVersion

set_option relaxedAutoImplicit false
set_option autoImplicit false

/-!
# The order of the targets

A run patches its targets one after the other, so later targets read what earlier ones have written.
For targets that are apart this makes no difference: what a target reports and what it calls for can be
told from the texts before the whole run, and the patches of the texts commute. Running through the
targets in another order then leaves the same texts and reports the same of every target.

As in `Workbench.Target.patch_comm`, tails and the version need only be free of line feeds.

## Main definitions

* `Workbench.Target.outcomeOn` — what a target reports in given texts.
* `Workbench.Target.callsFor` — the calls that go with what a target reports.

## Main results

* `Workbench.Target.outcomeOn_patch` — a patch leaves what a target apart from its own reports.
* `Workbench.MemoryStore.outcome_of_completes` — every target reports as in the texts before the run.
* `Workbench.MemoryStore.applyVersion_eq` — a run in terms of the texts before it.
* `Workbench.applyVersion_perm` — the order of targets that are apart does not matter.
-/

namespace Workbench

/-! ### What a target reports in given texts -/

namespace Target

/-- What a target reports where its turn comes in given texts. -/
def outcomeOn (version : String) (texts : Texts) (target : Target) : Outcome :=
  target.outcomeAt version ((texts.get? target.path).bind target.found?)

/-- The calls that go with what a target reports: a reading, and a writing if the line is changed. -/
def callsFor (version : String) (target : Target) (outcome : Outcome) : List Call :=
  if outcome = .updated (target.line version) then [.read target.path, .write target.path]
  else [.read target.path]

/-- **A patch leaves what a target apart from its own reports.** -/
theorem outcomeOn_patch {a b : Target} {version : String} (htail : '\n' ∉ a.tailChars)
    (hversion : '\n' ∉ version.toList) (hab : a.Apart b) (texts : Texts) :
    b.outcomeOn version (texts.patch version a) = b.outcomeOn version texts := by
  unfold outcomeOn
  by_cases hpath : a.path = b.path
  · obtain ⟨hlead, hlead'⟩ := hab hpath
    rw [← hpath, Texts.get?_patch]
    cases texts.get? a.path with
    | none => rfl
    | some text =>
      exact congrArg (b.outcomeAt version) (found?_patch_of_apart hlead hlead' htail hversion text)
  · rw [Texts.get?_patch_ne hpath]

end Target

namespace Step

variable {version : String} {step : Step}

/-- A step reports what its target reports in the texts that it reads from. -/
lemma outcome_eq_outcomeOn {texts : Texts} (h : texts.get? step.target.path = some step.text) :
    step.outcome version = step.target.outcomeOn version texts := by
  rw [outcome, Target.patch_eq, Target.outcomeOn, h]
  rfl

/-- The calls of a step are told by what it reports. -/
lemma calls_eq_callsFor : step.calls version = step.target.callsFor version (step.outcome version) := by
  have hsame : step.patched version = step.text ↔
      step.outcome version ≠ .updated (step.target.line version) := step.target.patch_fst_eq_iff
  rw [calls, writes, Target.callsFor]
  by_cases hc : step.outcome version = .updated (step.target.line version)
  · simp [hc, hsame]
  · simp [hc, hsame]

end Step

/-! ### A run in terms of the texts before it -/

namespace MemoryStore

variable {memory : MemoryStore} {version : String} {targets : List Target}

/-- **Every target reports as in the texts before the run**, if the targets are apart.

**Proof sketch.** Induction on the steps. The first target reads the texts before the run. The others
read texts that its patch may have changed, but nothing that they report (`Target.outcomeOn_patch`). -/
theorem outcome_of_completes (hversion : '\n' ∉ version.toList) {steps : List Step} {texts : Texts}
    (htail : ∀ step ∈ steps, '\n' ∉ step.target.tailChars)
    (hapart : (steps.map Step.target).Pairwise Target.Apart)
    (h : memory.Completes version texts steps) :
    ∀ step ∈ steps, step.outcome version = step.target.outcomeOn version texts := by
  induction steps generalizing texts with
  | nil => simp
  | cons first steps ih =>
    obtain ⟨-, hread, -, hrest⟩ := h
    obtain ⟨hfirst, hapart⟩ := List.pairwise_cons.1 hapart
    intro step hm
    rcases List.mem_cons.1 hm with rfl | hm
    · exact Step.outcome_eq_outcomeOn hread
    · have hlater := ih (fun s hs => htail s (by simp [hs])) hapart hrest step hm
      rw [hlater, Texts.putAll_writes hread]
      exact Target.outcomeOn_patch (htail first (by simp)) hversion
        (hfirst _ (List.mem_map_of_mem hm)) texts

/-- **A run in terms of the texts before it**: where nothing fails and the targets are apart, each of
them reports and calls for what it would if it were the only one. -/
theorem applyVersion_eq (hf : memory.IsFaultFree) (hh : memory.Holds targets)
    (htail : ∀ target ∈ targets, '\n' ∉ target.tailChars) (hapart : targets.Pairwise Target.Apart)
    (hversion : '\n' ∉ version.toList) :
    let run := applyVersion store version targets memory
    let outcome := Target.outcomeOn version memory.texts
    run.after =
        { memory with
          texts := memory.texts.patchAll version targets
          calls := memory.calls ++
            targets.flatMap fun target => target.callsFor version (outcome target) } ∧
      run.result = .ok (targets.map fun target => (target, outcome target)) := by
  intro run outcome
  obtain ⟨steps, rfl, hsteps⟩ := exists_completes_all version hf hh
  have houtcome : ∀ step ∈ steps, step.outcome version = outcome step.target :=
    outcome_of_completes hversion (fun step hm => htail _ (List.mem_map_of_mem hm)) hapart hsteps
  have hcalls : steps.flatMap (Step.calls version) =
      (steps.map Step.target).flatMap fun target => target.callsFor version (outcome target) := by
    rw [List.flatMap_map]
    refine List.flatMap_congr fun step hm => ?_
    rw [Step.calls_eq_callsFor, houtcome step hm]
  have hentries : steps.map (Step.entry version) =
      (steps.map Step.target).map fun target => (target, outcome target) := by
    rw [List.map_map]
    refine List.map_congr_left fun step hm => ?_
    simp [Step.entry, houtcome step hm]
  have hrun : run = _ := applyVersion_of_completes hsteps
  rw [hrun]
  exact ⟨by rw [afterSteps, putAll_flatMap_writes hsteps, hcalls], congrArg Except.ok hentries⟩

end MemoryStore

/-! ### Another order -/

/-- The texts after the patches of targets that are apart do not depend on the order. -/
theorem Texts.patchAll_perm {version : String} {targets reordered : List Target}
    (htail : ∀ target ∈ targets, '\n' ∉ target.tailChars) (hapart : targets.Pairwise Target.Apart)
    (hversion : '\n' ∉ version.toList) (hperm : reordered.Perm targets) (texts : Texts) :
    texts.patchAll version reordered = texts.patchAll version targets := by
  refine hperm.foldl_eq' (fun a ha b hb texts => ?_) texts
  have hma : a ∈ targets := hperm.mem_iff.1 ha
  have hmb : b ∈ targets := hperm.mem_iff.1 hb
  rcases eq_or_apart_of_mem hapart hma hmb with rfl | hab
  · rfl
  · exact Texts.patch_comm (htail a hma) (htail b hmb) hversion hversion hab texts

/-- **The order of targets that are apart does not matter.** Over texts over which nothing fails, for
targets with no line feed in their tails of which any two are apart, and a version with no line feed, a
run through the targets in another order leaves the same store, up to the order in which its journal
has the calls, and reports the same outcome of every target.

**Proof sketch.** The requirements hold in any order, so both runs are as in
`MemoryStore.applyVersion_eq`: outcomes and calls are told by the texts before the run, and of the texts
left behind the patches commute (`Texts.patchAll_perm`). -/
theorem applyVersion_perm {memory : MemoryStore} {version : String} {targets reordered : List Target}
    (hf : memory.IsFaultFree) (hh : memory.Holds targets)
    (htail : ∀ target ∈ targets, '\n' ∉ target.tailChars) (hapart : targets.Pairwise Target.Apart)
    (hversion : '\n' ∉ version.toList) (hperm : reordered.Perm targets) :
    let run := applyVersion MemoryStore.store version targets memory
    let other := applyVersion MemoryStore.store version reordered memory
    other.after = { run.after with calls := other.after.calls } ∧
      other.after.calls.Perm run.after.calls ∧
      ∃ outcome : Target → Outcome,
        run.result = .ok (targets.map fun target => (target, outcome target)) ∧
        other.result = .ok (reordered.map fun target => (target, outcome target)) := by
  intro run other
  have hmem : ∀ target ∈ reordered, target ∈ targets := fun target hm => hperm.mem_iff.1 hm
  have hh' : memory.Holds reordered := fun target hm => hh target (hmem target hm)
  have htail' : ∀ target ∈ reordered, '\n' ∉ target.tailChars := fun target hm =>
    htail target (hmem target hm)
  have hapart' : reordered.Pairwise Target.Apart := hapart.perm hperm.symm Target.Apart.symm
  obtain ⟨hafter, hresult⟩ : run.after = _ ∧ run.result = _ :=
    MemoryStore.applyVersion_eq hf hh htail hapart hversion
  obtain ⟨hafter', hresult'⟩ : other.after = _ ∧ other.result = _ :=
    MemoryStore.applyVersion_eq hf hh' htail' hapart' hversion
  refine ⟨?_, ?_, _, hresult, hresult'⟩
  · rw [hafter, hafter', Texts.patchAll_perm htail hapart hversion hperm]
  · rw [hafter, hafter']
    exact (hperm.flatMap_right _).append_left _

/-- Two lines of one file, of which the second takes on a carriage return, and a line of another file,
taken in the opposite order. -/
theorem applyVersion_reverse :
    let name : Target := { path := "app.txt", lead := "name ", style := .quoted, tail := none }
    let number : Target := { path := "app.txt", lead := "number ", style := .bare, tail := some "\r" }
    let other : Target := { path := "lib.txt", lead := "number ", style := .bare, tail := none }
    let memory : MemoryStore :=
      { texts := [("app.txt", "number 1\nname é\r\nname 1"), ("lib.txt", "number 10")] }
    let run := applyVersion MemoryStore.store "10" [name, number, other] memory
    let reversed := applyVersion MemoryStore.store "10" [other, number, name] memory
    (memory.IsFaultFree ∧ memory.Holds [name, number, other] ∧
      (∀ target ∈ [name, number, other], '\n' ∉ target.tailChars) ∧
      [name, number, other].Pairwise Target.Apart ∧ '\n' ∉ "10".toList ∧
      [other, number, name].Perm [name, number, other]) ∧
    reversed.after.texts = run.after.texts ∧
      run.after.texts =
        [("app.txt", "number 10\r\nname \"10\"\r\nname 1"), ("lib.txt", "number 10")] ∧
      reversed.result =
        .ok [(other, .unchanged "number 10"), (number, .updated "number 10\r"),
          (name, .updated "name \"10\"")] := by
  intro name number other memory run reversed
  have hf : memory.IsFaultFree := ⟨rfl, rfl⟩
  have hh : memory.Holds [name, number, other] := by decide
  have htail : ∀ target ∈ [name, number, other], '\n' ∉ target.tailChars := by decide
  have hapart : [name, number, other].Pairwise Target.Apart := by decide
  have hversion : '\n' ∉ "10".toList := by decide
  have hperm : [other, number, name].Perm [name, number, other] := by decide
  have hafter : reversed.after = { run.after with calls := reversed.after.calls } :=
    (applyVersion_perm hf hh htail hapart hversion hperm).1
  exact ⟨⟨hf, hh, htail, hapart, hversion, hperm⟩, by rw [hafter], by decide +kernel,
    by decide +kernel⟩

end Workbench
