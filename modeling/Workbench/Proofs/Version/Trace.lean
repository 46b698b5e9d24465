import Mathlib.Data.List.Basic
import Workbench.Proofs.Version.Rewriting
import Workbench.Version.Apply

set_option relaxedAutoImplicit false
set_option autoImplicit false

/-!
# The trace of a run over texts

Applying a version goes through the targets in order. The step of a target is completed if its text
can be read and, should the patch change it, written; the first call that fails ends the run. This file
says which steps are completed, by the texts alone (`MemoryStore.Completes`), which call ends a run
(`MemoryStore.Fails`), and what the run answers, reports, calls and leaves behind in terms of them.

## Main definitions

* `Workbench.Step` — a completed step: the target and the text that was read for it.
* `Workbench.MemoryStore.Completes` — the steps that are completed one after the other.
* `Workbench.MemoryStore.Fails` — the call that ends a run at a target.
* `Workbench.MemoryStore.IsTrace` — what a run does that completes given steps.

## Main results

* `Workbench.MemoryStore.apply_of_completes`, `Workbench.MemoryStore.apply_of_fails` — the step of one
  target.
* `Workbench.applyVersion_of_completes` — a run of which all steps are completed.
* `Workbench.exists_of_applyVersion_eq_error` — the targets that a run completes that fails.
* `Workbench.MemoryStore.exists_completes` — targets up to the first one that fails.
* `Workbench.applyVersion_isTrace` — every run has a trace.
-/

namespace Workbench

/-! ### Completed steps -/

/-- A target whose step was completed, with the text that was read for it. -/
structure Step where
  target : Target
  text : String

namespace Step

variable (version : String) (step : Step)

/-- The text after the step. -/
def patched : String := (step.target.patch version step.text).1

/-- What became of the version line. -/
def outcome : Outcome := (step.target.patch version step.text).2

/-- What the step writes: the patched text exactly if it differs from the text that was read. -/
def writes : List (String × String) :=
  if step.patched version = step.text then [] else [(step.target.path, step.patched version)]

/-- The calls of the step: one reading, and then its writing, if any. -/
def calls : List Call :=
  .read step.target.path :: (step.writes version).map fun entry => .write entry.1

/-- The event of the step. -/
def event : Event := step.target.event version (step.outcome version)

/-- The urgency of the event. -/
def level : Level := if step.outcome version = .leadNotFound then .warn else .info

/-- A step reports one event, a warning exactly if the line was not found. -/
lemma level_event : (step.event version).level = step.level version := by
  unfold event level
  cases step.outcome version <;> rfl

/-- The line of the report. -/
def entry : Target × Outcome := (step.target, step.outcome version)

end Step

/-- Puts texts at their paths, in order. -/
def Texts.putAll (entries : List (String × String)) (texts : Texts) : Texts :=
  entries.foldl (fun texts entry => texts.put entry.1 entry.2) texts

namespace MemoryStore

variable (memory : MemoryStore) (version : String)

/-- The steps can be completed one after the other: each text is there and can be read, and it can be
written if the patch changes it. -/
def Completes : Texts → List Step → Prop
  | _, [] => True
  | texts, step :: steps =>
    memory.readFaults.lookup step.target.path = none ∧
      texts.get? step.target.path = some step.text ∧
      (step.writes version ≠ [] → memory.writeFaults.lookup step.target.path = none) ∧
      Completes (texts.putAll (step.writes version)) steps

/-- The calls made for a target of which the last one fails, and the fault. -/
inductive Fails (texts : Texts) (target : Target) : List Call → Fault → Prop where
  /-- The reading is refused. -/
  | refusedRead {fault : Fault} (hr : memory.readFaults.lookup target.path = some fault) :
    Fails texts target [.read target.path] fault
  /-- There is no text. -/
  | missing (hr : memory.readFaults.lookup target.path = none)
    (ht : texts.get? target.path = none) :
    Fails texts target [.read target.path] (.file .noEntry)
  /-- The text would change, but the writing is refused. -/
  | refusedWrite {text : String} {fault : Fault}
    (hr : memory.readFaults.lookup target.path = none)
    (ht : texts.get? target.path = some text) (hc : (target.patch version text).1 ≠ text)
    (hw : memory.writeFaults.lookup target.path = some fault) :
    Fails texts target [.read target.path, .write target.path] fault

/-- What has become of a store when steps were completed. -/
def afterSteps (steps : List Step) : MemoryStore :=
  { memory with
    texts := memory.texts.putAll (steps.flatMap (Step.writes version))
    calls := memory.calls ++ steps.flatMap (Step.calls version) }

/-- What a run does that completes given steps: it ends after them, because there is no further target
or because a call fails for the next one. -/
structure IsTrace (targets : List Target) (steps : List Step) (run : Work MemoryStore Report) :
    Prop where
  /-- The steps can be completed. -/
  completes : memory.Completes version memory.texts steps
  /-- All targets are done and reported, or the next one fails and its fault is answered. -/
  ending :
    (targets = steps.map Step.target ∧ run.result = .ok (steps.map (Step.entry version)) ∧
      run.after.calls = memory.calls ++ steps.flatMap (Step.calls version)) ∨
    ∃ target rest last fault, targets = steps.map Step.target ++ target :: rest ∧
      memory.Fails version run.after.texts target last fault ∧ run.result = .error fault ∧
      run.after.calls = memory.calls ++ steps.flatMap (Step.calls version) ++ last
  /-- The texts are those from before with the writings of the steps. -/
  texts_eq : run.after.texts = memory.texts.putAll (steps.flatMap (Step.writes version))
  /-- The calls that fail stay the same. -/
  faults_eq : run.after.readFaults = memory.readFaults ∧ run.after.writeFaults = memory.writeFaults
  /-- There is one event for each step. -/
  events_eq : run.events = steps.map (Step.event version)
  /-- It is a warning exactly for a line that was not found. -/
  levels_eq : run.events.map Event.level = steps.map (Step.level version)
  /-- No path is created or deleted. -/
  paths_eq : run.after.texts.map Prod.fst = memory.texts.map Prod.fst
  /-- Paths that are not the path of a target keep their texts. -/
  others_eq : ∀ path, (∀ target ∈ targets, target.path ≠ path) →
    run.after.texts.get? path = memory.texts.get? path

end MemoryStore

/-! ### The step of one target -/

section Store

variable {σ : Type} (store : TextStore σ) (version : String)

/-- A patch reports a change with the line of its target only. -/
lemma eq_line_of_updated {target : Target} {text line : String}
    (h : (target.patch version text).2 = .updated line) : line = target.line version := by
  rw [Target.patch_eq] at h
  cases hf : target.found? text with
  | none => simp [hf, Target.outcomeAt] at h
  | some found =>
    by_cases hc : found.content = (target.line version).toList
    · simp [hf, Target.outcomeAt, hc] at h
    · simpa [hf, Target.outcomeAt, hc, eq_comm] using h

/-- What a patch asks of a store: a writing exactly if the text changes. -/
lemma save_patch (target : Target) (text : String) (state : σ) :
    store.save target.path (target.patch version text).1 (target.patch version text).2 state =
      if (target.patch version text).1 = text then (.ok (), state)
      else store.write target.path (target.patch version text).1 state := by
  have hiff : (target.patch version text).1 = text ↔ _ := target.patch_fst_eq_iff
  cases ho : (target.patch version text).2 with
  | updated line =>
    obtain rfl := eq_line_of_updated version ho
    rw [if_neg (fun h => hiff.1 h ho)]
    rfl
  | unchanged line => rw [if_pos (hiff.2 (by simp [ho]))]; rfl
  | leadNotFound => rw [if_pos (hiff.2 (by simp [ho]))]; rfl

section Step

variable {target : Target} {text : String} {state between after : σ} {fault : Fault}

/-- A step ends with a reading that fails. -/
lemma apply_of_read_error (hr : store.read target.path state = (.error fault, after)) :
    target.apply store version state = { result := .error fault, events := [], after } := by
  simp [Target.apply, hr]

/-- A step that does not change the text ends with the reading. -/
lemma apply_of_same (hr : store.read target.path state = (.ok text, after))
    (hc : (target.patch version text).1 = text) :
    target.apply store version state =
      { result := .ok (target.patch version text).2
        events := [target.event version (target.patch version text).2]
        after } := by
  have hsave := save_patch store version target text after
  rw [if_pos hc] at hsave
  simp [Target.apply, hr, hsave]

/-- A step that changes the text ends with the writing. -/
lemma apply_of_write_ok (hr : store.read target.path state = (.ok text, between))
    (hc : (target.patch version text).1 ≠ text)
    (hw : store.write target.path (target.patch version text).1 between = (.ok (), after)) :
    target.apply store version state =
      { result := .ok (target.patch version text).2
        events := [target.event version (target.patch version text).2]
        after } := by
  have hsave := save_patch store version target text between
  rw [if_neg hc, hw] at hsave
  simp [Target.apply, hr, hsave]

/-- A step ends with a writing that fails. -/
lemma apply_of_write_error (hr : store.read target.path state = (.ok text, between))
    (hc : (target.patch version text).1 ≠ text)
    (hw : store.write target.path (target.patch version text).1 between = (.error fault, after)) :
    target.apply store version state = { result := .error fault, events := [], after } := by
  have hsave := save_patch store version target text between
  rw [if_neg hc, hw] at hsave
  simp [Target.apply, hr, hsave]

end Step

/-- A run whose first target is completed goes on with the others. -/
lemma applyVersion_cons_of_ok {target : Target} {targets : List Target} {state : σ}
    {outcome : Outcome} (h : (target.apply store version state).result = .ok outcome) :
    applyVersion store version (target :: targets) state =
      { result := (applyVersion store version targets
          (target.apply store version state).after).result.map ((target, outcome) :: ·)
        events := (target.apply store version state).events ++
          (applyVersion store version targets (target.apply store version state).after).events
        after := (applyVersion store version targets
          (target.apply store version state).after).after } := by
  simp [applyVersion, h]

/-- A run whose first target fails ends there. -/
lemma applyVersion_cons_of_error {target : Target} {targets : List Target} {state : σ}
    {fault : Fault} (h : (target.apply store version state).result = .error fault) :
    applyVersion store version (target :: targets) state =
      { result := .error fault
        events := (target.apply store version state).events
        after := (target.apply store version state).after } := by
  simp [applyVersion, h]

/-- **A run that fails has completed the targets before one of them**, and ends as the step of that
target does.

**Proof sketch.** Induction on the targets. The run ends at the first one, or completes it and goes on
as a run over the others. -/
theorem exists_of_applyVersion_eq_error {targets : List Target} {state : σ} {fault : Fault}
    (h : (applyVersion store version targets state).result = .error fault) :
    ∃ done target rest report, targets = done ++ target :: rest ∧
      (applyVersion store version done state).result = .ok report ∧
      (target.apply store version (applyVersion store version done state).after).result =
        .error fault ∧
      (applyVersion store version targets state).after =
        (target.apply store version (applyVersion store version done state).after).after := by
  induction targets generalizing state with
  | nil => simp [applyVersion] at h
  | cons target targets ih =>
    cases hr : (target.apply store version state).result with
    | error fault' =>
      rw [applyVersion_cons_of_error store version hr] at h ⊢
      obtain rfl := Except.error.inj h
      exact ⟨[], target, targets, [], rfl, rfl, hr, rfl⟩
    | ok outcome =>
      rw [applyVersion_cons_of_ok store version hr] at h ⊢
      have hrest : (applyVersion store version targets
          (target.apply store version state).after).result = .error fault := by
        cases hrun : (applyVersion store version targets
          (target.apply store version state).after).result with
        | error other =>
          rw [hrun] at h
          exact h
        | ok report =>
          rw [hrun] at h
          simp [Except.map] at h
      obtain ⟨done, next, rest, report, rfl, hdone, hnext, hafter⟩ := ih hrest
      have hfirst := @applyVersion_cons_of_ok _ store version _ done _ _ hr
      refine ⟨target :: done, next, rest, (target, outcome) :: report, rfl, ?_, ?_, ?_⟩
      · rw [hfirst, hdone]
        rfl
      · rw [hfirst]
        exact hnext
      · rw [hfirst]
        exact hafter

end Store

/-! ### Texts that are put -/

namespace Texts

/-- Putting the texts of two lists is putting those of the one, then those of the other. -/
lemma putAll_append (xs ys : List (String × String)) (texts : Texts) :
    texts.putAll (xs ++ ys) = (texts.putAll xs).putAll ys :=
  List.foldl_append

/-- Putting a text where there is one creates and deletes no path. -/
lemma map_fst_put {path text : String} {texts : Texts} (h : (texts.get? path).isSome) :
    (texts.put path text).map Prod.fst = texts.map Prod.fst := by
  induction texts with
  | nil => simp [get?] at h
  | cons entry rest ih =>
    obtain ⟨p, t⟩ := entry
    by_cases hp : p = path
    · simp [put, hp]
    · have hne : (path == p) = false := by simpa using Ne.symm hp
      have hrest : (get? rest path).isSome := by simpa [get?, List.lookup_cons, hne] using h
      simp [put, hp, ih hrest]

/-- Texts at paths that are not put stay. -/
lemma get?_putAll_ne {entries : List (String × String)} {path : String}
    (h : ∀ entry ∈ entries, entry.1 ≠ path) (texts : Texts) :
    (texts.putAll entries).get? path = texts.get? path := by
  induction entries generalizing texts with
  | nil => rfl
  | cons entry rest ih =>
    have hrest := ih (fun e he => h e (by simp [he])) (texts.put entry.1 entry.2)
    exact hrest.trans (get?_put_ne (h entry (by simp)).symm _ _)

end Texts

/-- A step writes to the path of its target only. -/
lemma Step.fst_of_mem_writes {version : String} {step : Step} {entry : String × String}
    (h : entry ∈ step.writes version) : entry.1 = step.target.path := by
  unfold writes at h
  split at h
  · simp at h
  · simp_all

namespace MemoryStore

variable {memory : MemoryStore} {version : String}

/-- Completed steps create and delete no path. -/
lemma map_fst_of_completes {steps : List Step} :
    ∀ {texts : Texts}, memory.Completes version texts steps →
      (texts.putAll (steps.flatMap (Step.writes version))).map Prod.fst = texts.map Prod.fst := by
  induction steps with
  | nil => exact fun _ => rfl
  | cons step steps ih =>
    rintro texts ⟨-, ht, -, hrest⟩
    rw [List.flatMap_cons, Texts.putAll_append, ih hrest]
    unfold Step.writes
    split
    · rfl
    · exact Texts.map_fst_put (by simp [ht])

/-! ### The run of completed steps and its end -/

/-- The step of a target whose text can be read and, if it changes, written.

**Proof sketch.** The store answers the reading with the text. If the text stays, the step ends there
(`apply_of_same`) and writes nothing, else it ends with the writing (`apply_of_write_ok`). -/
lemma apply_of_completes {step : Step} {texts : Texts} (calls : List Call)
    (h : memory.Completes version texts [step]) :
    step.target.apply store version { memory with texts, calls } =
      { result := .ok (step.outcome version)
        events := [step.event version]
        after := { memory with
          texts := texts.putAll (step.writes version)
          calls := calls ++ step.calls version } } := by
  obtain ⟨hr, ht, hw, -⟩ := h
  have hread : store.read step.target.path { memory with texts, calls } =
      (.ok step.text, { memory with texts, calls := calls ++ [.read step.target.path] }) := by
    simp [store, read, hr, ht]
  by_cases hc : step.patched version = step.text
  · have hwrites : step.writes version = [] := if_pos hc
    rw [apply_of_same store version hread hc]
    simp [hwrites, Step.calls, Texts.putAll, Step.outcome, Step.event]
  · have hwrites : step.writes version = [(step.target.path, step.patched version)] := if_neg hc
    have hwrite : store.write step.target.path (step.target.patch version step.text).1
        { memory with texts, calls := calls ++ [.read step.target.path] } =
        (.ok (), { memory with
          texts := texts.put step.target.path (step.patched version)
          calls := calls ++ [.read step.target.path, .write step.target.path] }) := by
      simp [store, write, hw (by simp [hwrites]), Step.patched]
    rw [apply_of_write_ok store version hread hc hwrite]
    simp [hwrites, Step.calls, Texts.putAll, Step.outcome, Step.event]

/-- The step of a target for which a call fails. -/
lemma apply_of_fails {target : Target} {texts : Texts} (calls : List Call) {last : List Call}
    {fault : Fault} (h : memory.Fails version texts target last fault) :
    target.apply store version { memory with texts, calls } =
      { result := .error fault
        events := []
        after := { memory with texts, calls := calls ++ last } } := by
  cases h with
  | refusedRead hr => exact apply_of_read_error store version (by simp [store, read, hr])
  | missing hr ht => exact apply_of_read_error store version (by simp [store, read, hr, ht])
  | @refusedWrite text fault hr ht hc hw =>
    have hread : store.read target.path { memory with texts, calls } =
        (.ok text, { memory with texts, calls := calls ++ [.read target.path] }) := by
      simp [store, read, hr, ht]
    exact apply_of_write_error store version hread hc (by simp [store, write, hw])

/-- A run whose first steps are completed goes on from the store that they leave.

**Proof sketch.** Induction on the steps. Each one is `apply_of_completes`, from the texts and calls
that the steps before it have left. -/
lemma applyVersion_append {steps : List Step} (rest : List Target) :
    ∀ {texts : Texts} (calls : List Call), memory.Completes version texts steps →
      applyVersion store version (steps.map Step.target ++ rest) { memory with texts, calls } =
        let tail := applyVersion store version rest { memory with
          texts := texts.putAll (steps.flatMap (Step.writes version))
          calls := calls ++ steps.flatMap (Step.calls version) }
        { result := tail.result.map (steps.map (Step.entry version) ++ ·)
          events := steps.map (Step.event version) ++ tail.events
          after := tail.after } := by
  induction steps with
  | nil =>
    intro texts calls _
    simp only [List.map_nil, List.nil_append, List.flatMap_nil, List.append_nil, Texts.putAll,
      List.foldl_nil]
    cases hr : (applyVersion store version rest { memory with texts, calls }).result <;>
      simp [Except.map, ← hr]
  | cons step steps ih =>
    rintro texts calls ⟨hr, ht, hw, hrest⟩
    have hstep := apply_of_completes calls
      (⟨hr, ht, hw, trivial⟩ : memory.Completes version texts [step])
    rw [List.map_cons, List.cons_append,
      applyVersion_cons_of_ok store version (congrArg Work.result hstep), hstep]
    simp only
    rw [ih _ hrest]
    simp only [List.flatMap_cons, Texts.putAll_append, List.append_assoc, List.map_cons,
      List.cons_append, List.nil_append]
    congr 1
    generalize (applyVersion store version rest _).result = result
    cases result <;> rfl

/-- **A run of which all steps are completed.** -/
theorem applyVersion_of_completes {steps : List Step}
    (h : memory.Completes version memory.texts steps) :
    applyVersion store version (steps.map Step.target) memory =
      { result := .ok (steps.map (Step.entry version))
        events := steps.map (Step.event version)
        after := memory.afterSteps version steps } := by
  have hrun := applyVersion_append [] memory.calls h
  simpa [applyVersion, afterSteps, Except.map] using hrun

/-- A run of which a call fails after some steps. -/
theorem applyVersion_of_fails {steps : List Step} {target : Target} {rest : List Target}
    {last : List Call} {fault : Fault} (h : memory.Completes version memory.texts steps)
    (hf : memory.Fails version (memory.texts.putAll (steps.flatMap (Step.writes version))) target
      last fault) :
    applyVersion store version (steps.map Step.target ++ target :: rest) memory =
      { result := .error fault
        events := steps.map (Step.event version)
        after := { memory with
          texts := memory.texts.putAll (steps.flatMap (Step.writes version))
          calls := memory.calls ++ steps.flatMap (Step.calls version) ++ last } } := by
  have hrun := applyVersion_append (target :: rest) memory.calls h
  have hlast := apply_of_fails (memory.calls ++ steps.flatMap (Step.calls version)) hf
  rw [hrun]
  simp only
  rw [applyVersion_cons_of_error store version (congrArg Work.result hlast), hlast]
  simp [Except.map]

/-- **Targets up to the first one that fails**: the steps of the targets before it are completed.

**Proof sketch.** Induction on the targets. Whether the step of the first one is completed is decided
by the reading, the presence of a text, the change of the text and the writing, in this order. -/
theorem exists_completes (memory : MemoryStore) (version : String) (targets : List Target) :
    ∀ texts : Texts, ∃ steps, memory.Completes version texts steps ∧
      (targets = steps.map Step.target ∨
        ∃ target rest last fault, targets = steps.map Step.target ++ target :: rest ∧
          memory.Fails version (texts.putAll (steps.flatMap (Step.writes version))) target
            last fault) := by
  induction targets with
  | nil => exact fun _ => ⟨[], trivial, .inl rfl⟩
  | cons target targets ih =>
    intro texts
    cases hr : memory.readFaults.lookup target.path with
    | some fault => exact ⟨[], trivial, .inr ⟨target, targets, _, _, rfl, .refusedRead hr⟩⟩
    | none =>
      cases ht : texts.get? target.path with
      | none => exact ⟨[], trivial, .inr ⟨target, targets, _, _, rfl, .missing hr ht⟩⟩
      | some text =>
        let step : Step := ⟨target, text⟩
        by_cases hw : step.writes version ≠ [] → memory.writeFaults.lookup target.path = none
        · obtain ⟨steps, hsteps, hend⟩ := ih (texts.putAll (step.writes version))
          refine ⟨step :: steps, ⟨hr, ht, hw, hsteps⟩, ?_⟩
          rcases hend with rfl | ⟨next, rest, last, fault, rfl, hf⟩
          · exact .inl rfl
          · refine .inr ⟨next, rest, last, fault, rfl, ?_⟩
            rw [List.flatMap_cons, Texts.putAll_append]
            exact hf
        · obtain ⟨hne, hfault⟩ := Classical.not_imp.1 hw
          obtain ⟨fault, hfault⟩ := Option.ne_none_iff_exists'.1 hfault
          have hc : (target.patch version text).1 ≠ text := fun hc => hne (if_pos hc)
          exact ⟨[], trivial, .inr ⟨target, targets, _, _, rfl, .refusedWrite hr ht hc hfault⟩⟩

end MemoryStore

/-! ### Every run has a trace -/

/-- **The trace of a run.** A run over texts completes the steps of some targets, in order, each with
one reading and with one writing exactly if its text changes. It ends after the last target with a
report on each of them, or at the first call that fails, with the fault of that call. The texts are
those of before with the writings of the completed steps, that is, those that a run over the targets
of these steps alone leaves, and for each of these steps there is one event.

**Proof sketch.** The steps are those of `MemoryStore.exists_completes`; what the run does is then
`applyVersion_of_completes` or `applyVersion_of_fails`. -/
theorem applyVersion_isTrace (version : String) (targets : List Target) (memory : MemoryStore) :
    ∃ steps,
      memory.IsTrace version targets steps
        (applyVersion MemoryStore.store version targets memory) ∧
      (applyVersion MemoryStore.store version (steps.map Step.target) memory).result =
        .ok (steps.map (Step.entry version)) ∧
      (applyVersion MemoryStore.store version (steps.map Step.target) memory).after.texts =
        (applyVersion MemoryStore.store version targets memory).after.texts := by
  obtain ⟨steps, hsteps, hend⟩ := memory.exists_completes version targets memory.texts
  have hdone := MemoryStore.applyVersion_of_completes hsteps
  have hothers : ∀ path, (∀ target ∈ targets, target.path ≠ path) →
      (memory.texts.putAll (steps.flatMap (Step.writes version))).get? path =
        memory.texts.get? path := by
    intro path hp
    refine Texts.get?_putAll_ne (fun entry he => ?_) _
    obtain ⟨step, hs, hw⟩ := List.mem_flatMap.1 he
    rw [Step.fst_of_mem_writes hw]
    refine hp _ ?_
    rcases hend with rfl | ⟨_, _, _, _, rfl, _⟩
    · exact List.mem_map_of_mem hs
    · exact List.mem_append_left _ (List.mem_map_of_mem hs)
  have hlevels : (steps.map (Step.event version)).map Event.level =
      steps.map (Step.level version) := by
    simp [Function.comp_def, Step.level_event]
  have hpaths := MemoryStore.map_fst_of_completes hsteps
  refine ⟨steps, ?_, by rw [hdone], ?_⟩
  · rcases hend with rfl | ⟨target, rest, last, fault, rfl, hf⟩
    · rw [hdone]
      exact ⟨hsteps, .inl ⟨rfl, rfl, rfl⟩, rfl, ⟨rfl, rfl⟩, rfl, hlevels, hpaths, hothers⟩
    · rw [MemoryStore.applyVersion_of_fails hsteps hf]
      exact ⟨hsteps, .inr ⟨target, rest, last, fault, rfl, hf, rfl, rfl⟩, rfl, ⟨rfl, rfl⟩, rfl,
        hlevels, hpaths, hothers⟩
  · rw [hdone]
    rcases hend with rfl | ⟨target, rest, last, fault, rfl, hf⟩
    · rw [hdone]
    · rw [MemoryStore.applyVersion_of_fails hsteps hf]
      rfl

end Workbench
