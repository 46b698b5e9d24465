import Mathlib.Data.List.Forall2
import Mathlib.Tactic.Lemma
import Workbench.Version.Apply

set_option relaxedAutoImplicit false
set_option autoImplicit false

/-!
# Stores that follow each other

Two stores can be told apart only by what they answer. If each reading and each writing of one agrees
with that of the other, and their states stay related, then so do whole runs of accesses: readings,
writings, and versions that are applied to targets.

## Main definitions

* `Workbench.Agree` — the same value, or faults that are similar.
* `Workbench.TextStore.Follows` — the calls of two stores agree, in related states.
* `Workbench.Access`, `Workbench.TextStore.run` — accesses to a store, one after the other.
* `Workbench.TextStore.journaled` — a store that keeps a journal of what it has written.

## Main results

* `Workbench.TextStore.Follows.applyVersion` — applied versions agree.
* `Workbench.TextStore.Follows.run` — whole runs agree.
* `Workbench.TextStore.journaled_follows` — a journal changes no answer.
-/

namespace Workbench

variable {σ τ α : Type}

/-! ### Agreement -/

/-- Two answers agree: they are the same value, or faults that are similar. -/
inductive Agree (similar : Fault → Fault → Prop) : Except Fault α → Except Fault α → Prop where
  | ok (a : α) : Agree similar (.ok a) (.ok a)
  | error {fault other : Fault} (h : similar fault other) : Agree similar (.error fault) (.error other)

/-- What is made of values that agree agrees. -/
lemma Agree.map {β : Type} {similar : Fault → Fault → Prop} {first second : Except Fault α}
    (h : Agree similar first second) (f : α → β) : Agree similar (first.map f) (second.map f) := by
  cases h with
  | ok a => exact .ok (f a)
  | error h => exact .error h

/-- Calls of two stores agree in what they answer, and leave related states. -/
inductive CallsAgree (similar : Fault → Fault → Prop) (related : σ → τ → Prop) :
    Except Fault α × σ → Except Fault α × τ → Prop where
  | ok (a : α) {s : σ} {t : τ} (h : related s t) : CallsAgree similar related (.ok a, s) (.ok a, t)
  | error {fault other : Fault} {s : σ} {t : τ} (hfault : similar fault other) (h : related s t) :
    CallsAgree similar related (.error fault, s) (.error other, t)

/-- Calls that agree answer alike. -/
lemma CallsAgree.answer {similar : Fault → Fault → Prop} {related : σ → τ → Prop}
    {first : Except Fault α × σ} {second : Except Fault α × τ}
    (h : CallsAgree similar related first second) : Agree similar first.1 second.1 := by
  cases h with
  | ok a h => exact .ok a
  | error hfault h => exact .error hfault

/-- Calls that agree leave related states. -/
lemma CallsAgree.after {similar : Fault → Fault → Prop} {related : σ → τ → Prop}
    {first : Except Fault α × σ} {second : Except Fault α × τ}
    (h : CallsAgree similar related first second) : related first.2 second.2 := by
  cases h with
  | ok a h => exact h
  | error hfault h => exact h

/-- Work on two stores agrees in what it answers and reports, and leaves related states. -/
structure Work.Agree (similar : Fault → Fault → Prop) (related : σ → τ → Prop) (first : Work σ α)
    (second : Work τ α) : Prop where
  result : Workbench.Agree similar first.result second.result
  events : first.events = second.events
  after : related first.after second.after

/-- The calls of two stores agree, in states that are related. -/
structure TextStore.Follows (similar : Fault → Fault → Prop) (related : σ → τ → Prop)
    (first : TextStore σ) (second : TextStore τ) : Prop where
  read {s : σ} {t : τ} (h : related s t) (path : String) :
    CallsAgree similar related (first.read path s) (second.read path t)
  write {s : σ} {t : τ} (h : related s t) (path text : String) :
    CallsAgree similar related (first.write path text s) (second.write path text t)

/-! ### Accesses -/

/-- An access to the texts of a store. -/
inductive Access where
  | read (path : String)
  | write (path text : String)
  | apply (version : String) (targets : List Target)

/-- What an access answers. -/
inductive Answer where
  | text (result : Except Fault String)
  | written (result : Except Fault Unit)
  | applied (result : Except Fault Report) (events : List Event)

/-- The answers to an access agree. -/
inductive Answer.Agree (similar : Fault → Fault → Prop) : Answer → Answer → Prop where
  | text {first second : Except Fault String} (h : Workbench.Agree similar first second) :
    Agree similar (.text first) (.text second)
  | written {first second : Except Fault Unit} (h : Workbench.Agree similar first second) :
    Agree similar (.written first) (.written second)
  | applied {first second : Except Fault Report} (h : Workbench.Agree similar first second)
    (events : List Event) : Agree similar (.applied first events) (.applied second events)

namespace TextStore

/-- Makes an access. -/
def perform (store : TextStore σ) (state : σ) : Access → Answer × σ
  | .read path => ((store.read path state).map .text id)
  | .write path text => ((store.write path text state).map .written id)
  | .apply version targets =>
    let work := applyVersion store version targets state
    (.applied work.result work.events, work.after)

/-- Makes accesses, one after the other. -/
def run (store : TextStore σ) : List Access → σ → List Answer × σ
  | [], state => ([], state)
  | access :: accesses, state =>
    let (answer, between) := store.perform state access
    let (answers, after) := store.run accesses between
    (answer :: answers, after)

/-! ### Stores that follow -/

namespace Follows

variable {similar : Fault → Fault → Prop} {related : σ → τ → Prop} {first : TextStore σ}
  {second : TextStore τ} (h : Follows similar related first second) {s : σ} {t : τ}
  (hstates : related s t)

include h hstates

/-- Savings agree. -/
lemma save (path text : String) (outcome : Outcome) :
    CallsAgree similar related (first.save path text outcome s) (second.save path text outcome t) := by
  cases outcome with
  | updated line => exact h.write hstates path text
  | unchanged line => exact .ok () hstates
  | leadNotFound => exact .ok () hstates

/-- The steps of one target agree. -/
lemma apply (version : String) (target : Target) :
    (target.apply first version s).Agree similar related (target.apply second version t) := by
  have hread := h.read hstates target.path
  unfold Target.apply
  generalize first.read target.path s = call, second.read target.path t = other at hread ⊢
  cases hread with
  | error hfault hafter => exact ⟨.error hfault, rfl, hafter⟩
  | ok text hbetween =>
    have hsave := h.save hbetween target.path (target.patch version text).1
      (target.patch version text).2
    dsimp only
    generalize first.save _ _ _ _ = call, second.save _ _ _ _ = other at hsave ⊢
    cases hsave with
    | error hfault hafter => exact ⟨.error hfault, rfl, hafter⟩
    | ok _ hafter => exact ⟨.ok _, rfl, hafter⟩

/-- **Applied versions agree.**

**Proof sketch.** Induction on the targets: their steps agree, and so end both runs or neither. -/
theorem applyVersion (version : String) (targets : List Target) :
    (Workbench.applyVersion first version targets s).Agree similar related
      (Workbench.applyVersion second version targets t) := by
  induction targets generalizing s t with
  | nil => exact ⟨.ok [], rfl, hstates⟩
  | cons target targets ih =>
    obtain ⟨hresult, hevents, hafter⟩ := h.apply hstates version target
    unfold Workbench.applyVersion
    dsimp only
    generalize (target.apply first version s).result = answer,
      (target.apply second version t).result = other at hresult ⊢
    cases hresult with
    | error hfault => exact ⟨.error hfault, hevents, hafter⟩
    | ok outcome =>
      obtain ⟨hrest, hmore, hend⟩ := ih hafter
      exact ⟨hrest.map _, by rw [hevents, hmore], hend⟩

/-- Accesses agree. -/
lemma perform (access : Access) :
    Answer.Agree similar (first.perform s access).1 (second.perform t access).1 ∧
      related (first.perform s access).2 (second.perform t access).2 := by
  cases access with
  | read path =>
    have hread := h.read hstates path
    exact ⟨.text hread.answer, hread.after⟩
  | write path text =>
    have hwrite := h.write hstates path text
    exact ⟨.written hwrite.answer, hwrite.after⟩
  | apply version targets =>
    obtain ⟨hresult, hevents, hafter⟩ := h.applyVersion hstates version targets
    change Answer.Agree similar
      (.applied _ (Workbench.applyVersion first version targets s).events) _ ∧ _
    rw [hevents]
    exact ⟨.applied hresult _, hafter⟩

/-- **Whole runs agree**: the answers one by one, and the states at the end.

**Proof sketch.** Induction on the accesses: each of them agrees and leaves related states. -/
theorem run (accesses : List Access) :
    List.Forall₂ (Answer.Agree similar) (first.run accesses s).1 (second.run accesses t).1 ∧
      related (first.run accesses s).2 (second.run accesses t).2 := by
  induction accesses generalizing s t with
  | nil => exact ⟨.nil, hstates⟩
  | cons access accesses ih =>
    obtain ⟨hanswer, hbetween⟩ := h.perform hstates access
    obtain ⟨hanswers, hafter⟩ := ih hbetween
    exact ⟨.cons hanswer hanswers, hafter⟩

end Follows

/-! ### Journals -/

/-- The writings that succeeded, latest first: paths with their texts. -/
abbrev Journal := List (String × String)

/-- A store that keeps a journal of the writings that succeed. -/
def journaled (store : TextStore σ) : TextStore (σ × Journal) where
  read path state :=
    let (answer, after) := store.read path state.1
    (answer, (after, state.2))
  write path text state :=
    match store.write path text state.1 with
    | (.ok (), after) => (.ok (), (after, (path, text) :: state.2))
    | (.error fault, after) => (.error fault, (after, state.2))

section Journaled

variable {store : TextStore σ} {state after : σ} {path text : String}

/-- A reading leaves the journal. -/
lemma journaled_read {answer : Except Fault String} (h : store.read path state = (answer, after))
    (journal : Journal) :
    store.journaled.read path (state, journal) = (answer, (after, journal)) := by
  simp only [journaled, h]

/-- A writing that succeeds goes into the journal. -/
lemma journaled_write_ok (h : store.write path text state = (.ok (), after)) (journal : Journal) :
    store.journaled.write path text (state, journal) = (.ok (), (after, (path, text) :: journal)) := by
  simp only [journaled, h]

/-- A writing that fails leaves the journal. -/
lemma journaled_write_error {fault : Fault} (h : store.write path text state = (.error fault, after))
    (journal : Journal) :
    store.journaled.write path text (state, journal) = (.error fault, (after, journal)) := by
  simp only [journaled, h]

end Journaled

/-- **A journal changes no answer**, and nothing in the store. -/
theorem journaled_follows (store : TextStore σ) :
    Follows Eq (fun state after => state.1 = after) store.journaled store where
  read := by
    rintro ⟨state, journal⟩ _ rfl path
    rcases hcall : store.read path state with ⟨fault | text, after⟩ <;> rw [journaled_read hcall]
    · exact .error rfl rfl
    · exact .ok text rfl
  write := by
    rintro ⟨state, journal⟩ _ rfl path text
    rcases hcall : store.write path text state with ⟨fault | _, after⟩
    · rw [journaled_write_error hcall]
      exact .error rfl rfl
    · rw [journaled_write_ok hcall]
      exact .ok () rfl

/-- What is left by accesses with a journal is what they leave without one. -/
lemma run_journaled (store : TextStore σ) (accesses : List Access) (state : σ) (journal : Journal) :
    (store.journaled.run accesses (state, journal)).2.1 = (store.run accesses state).2 :=
  (store.journaled_follows.run rfl accesses).2

end TextStore

end Workbench
