import Workbench.Proofs.Version.Trace

set_option relaxedAutoImplicit false
set_option autoImplicit false

/-!
# Runs in which nothing fails

Over texts that have no calls that fail, a run over targets whose files are all there completes every
step. What it leaves behind is then a fold: each target patches the text at its path, in order.

## Main definitions

* `Workbench.MemoryStore.IsFaultFree`, `Workbench.MemoryStore.Holds` — texts over which nothing fails.
* `Workbench.Texts.patch`, `Workbench.Texts.patchAll` — texts with the text at a path patched.
* `Workbench.targetsAt`, `Workbench.patchText` — the targets of one file, and what they make of its text.

## Main results

* `Workbench.Texts.put_put`, `Workbench.Texts.put_comm` — the laws of putting texts.
* `Workbench.Texts.patch_comm_of_path_ne` — patches at different paths commute.
* `Workbench.Texts.get?_patchAll` — the text of a file after the patches of all files.
* `Workbench.MemoryStore.exists_completes_all` — all steps of such a run are completed.
* `Workbench.MemoryStore.texts_applyVersion` — the texts that such a run leaves.
-/

namespace Workbench

namespace Texts

/-! ### Putting texts where there are some -/

/-- A path has a text exactly if it occurs. -/
lemma isSome_get?_iff {texts : Texts} {path : String} :
    (texts.get? path).isSome ↔ path ∈ texts.map Prod.fst := by
  induction texts with
  | nil => simp [get?]
  | cons entry rest ih =>
    obtain ⟨p, t⟩ := entry
    by_cases hp : path = p
    · simp [get?, hp]
    · have hne : (path == p) = false := by simpa using hp
      have hcons : get? ((p, t) :: rest) path = get? rest path := by
        simp [get?, List.lookup_cons, hne]
      simp [hcons, ih, hp]

/-- The text at a path behind an entry with another path. -/
lemma get?_cons_ne {p path t : String} {rest : Texts} (h : p ≠ path) :
    get? ((p, t) :: rest) path = get? rest path := by
  have hne : (path == p) = false := by simpa using Ne.symm h
  simp [get?, List.lookup_cons, hne]

/-- Putting the text that is there changes nothing. -/
lemma put_eq_self {texts : Texts} {path text : String} (h : texts.get? path = some text) :
    texts.put path text = texts := by
  induction texts with
  | nil => simp [get?] at h
  | cons entry rest ih =>
    obtain ⟨p, t⟩ := entry
    by_cases hp : p = path
    · subst hp
      have ht : t = text := by simpa [get?] using h
      simp [put, ht]
    · rw [get?_cons_ne hp] at h
      simp [put, hp, ih h]

/-- Of two texts that are put at a path the later one counts. -/
theorem put_put (path before text : String) (texts : Texts) :
    (texts.put path before).put path text = texts.put path text := by
  induction texts with
  | nil => simp [put]
  | cons entry rest ih =>
    obtain ⟨p, t⟩ := entry
    by_cases hp : p = path
    · simp [put, hp]
    · simp [put, hp, ih]

/-- Texts at two paths that are there can be put in either order. -/
theorem put_comm {path other : String} (hne : path ≠ other) (text text' : String) {texts : Texts}
    (h : (texts.get? path).isSome) (h' : (texts.get? other).isSome) :
    (texts.put other text').put path text = (texts.put path text).put other text' := by
  induction texts with
  | nil => simp [get?] at h
  | cons entry rest ih =>
    obtain ⟨p, t⟩ := entry
    by_cases hp : p = path
    · subst hp
      simp [put, hne]
    · by_cases ho : p = other
      · subst ho
        simp [put, hp]
      · rw [get?_cons_ne hp] at h
        rw [get?_cons_ne ho] at h'
        simp [put, hp, ho, ih h h']

/-! ### Patching texts -/

variable (version : String)

/-- The texts with the one at the path of a target patched. -/
def patch (texts : Texts) (target : Target) : Texts :=
  match texts.get? target.path with
  | some text => texts.put target.path (target.patch version text).1
  | none => texts

/-- The texts after the patches of all targets, in order. -/
def patchAll (targets : List Target) (texts : Texts) : Texts := targets.foldl (patch version) texts

variable {version}

@[simp] lemma patchAll_cons (target : Target) (targets : List Target) (texts : Texts) :
    patchAll version (target :: targets) texts =
      patchAll version targets (texts.patch version target) := rfl

lemma patch_of_some {texts : Texts} {target : Target} {text : String}
    (h : texts.get? target.path = some text) :
    texts.patch version target = texts.put target.path (target.patch version text).1 := by
  simp [patch, h]

lemma patch_of_none {texts : Texts} {target : Target} (h : texts.get? target.path = none) :
    texts.patch version target = texts := by
  simp [patch, h]

/-- The patched text is at the path of the target. -/
lemma get?_patch (texts : Texts) (target : Target) :
    (texts.patch version target).get? target.path =
      (texts.get? target.path).map fun text => (target.patch version text).1 := by
  cases h : texts.get? target.path with
  | none => rw [patch_of_none h, h]; rfl
  | some text => rw [patch_of_some h, get?_put]; rfl

/-- The texts at other paths stay. -/
lemma get?_patch_ne {target : Target} {path : String} (h : target.path ≠ path) (texts : Texts) :
    (texts.patch version target).get? path = texts.get? path := by
  cases ht : texts.get? target.path with
  | none => rw [patch_of_none ht]
  | some text => rw [patch_of_some ht, get?_put_ne h.symm]

/-- Patches at different paths commute: each of them reads what it would read without the other one, and
texts can be put in either order. -/
theorem patch_comm_of_path_ne {a b : Target} {v w : String} (hpath : a.path ≠ b.path) (texts : Texts) :
    (texts.patch v a).patch w b = (texts.patch w b).patch v a := by
  have hreada : (texts.patch v a).get? b.path = texts.get? b.path := get?_patch_ne hpath _
  have hreadb : (texts.patch w b).get? a.path = texts.get? a.path := get?_patch_ne hpath.symm _
  cases hta : texts.get? a.path with
  | none => rw [patch_of_none hta, patch_of_none (hreadb.trans hta)]
  | some text =>
    cases htb : texts.get? b.path with
    | none => rw [patch_of_none htb, patch_of_none (hreada.trans htb)]
    | some text' =>
      rw [patch_of_some (hreada.trans htb), patch_of_some hta, patch_of_some (hreadb.trans hta),
        patch_of_some htb]
      exact put_comm hpath.symm _ _ (by simp [htb]) (by simp [hta])

/-- The writings of a step patch the text of its target. -/
lemma putAll_writes {texts : Texts} {step : Step}
    (h : texts.get? step.target.path = some step.text) :
    texts.putAll (step.writes version) = texts.patch version step.target := by
  rw [patch_of_some h]
  unfold Step.writes
  split
  · next hc =>
    have hc' : (step.target.patch version step.text).1 = step.text := hc
    simp [putAll, hc', put_eq_self h]
  · rfl

end Texts

/-! ### The part of one file -/

/-- The targets with a path, in order. -/
def targetsAt (path : String) (targets : List Target) : List Target :=
  targets.filter fun target => target.path = path

/-- A text after the patches of targets, one after the other. -/
def patchText (version : String) (targets : List Target) (text : String) : String :=
  targets.foldl (fun text target => (target.patch version text).1) text

section TargetsAt

variable {target : Target} {path : String} {targets : List Target}

@[simp] lemma targetsAt_nil : targetsAt path [] = [] := rfl

lemma targetsAt_cons_self : targetsAt target.path (target :: targets) =
    target :: targetsAt target.path targets := by
  simp [targetsAt]

lemma targetsAt_cons_ne (h : target.path ≠ path) :
    targetsAt path (target :: targets) = targetsAt path targets := by
  simp [targetsAt, h]

lemma mem_targetsAt_iff : target ∈ targetsAt path targets ↔ target ∈ targets ∧ target.path = path := by
  simp [targetsAt]

end TargetsAt

/-- **The text of a file after the patches of all files** is its text after the patches of its own
targets. -/
theorem Texts.get?_patchAll {version : String} (targets : List Target) (texts : Texts) (path : String) :
    (texts.patchAll version targets).get? path =
      (texts.get? path).map (patchText version (targetsAt path targets)) := by
  induction targets generalizing texts with
  | nil => exact Option.map_id'.symm
  | cons target targets ih =>
    rw [patchAll_cons, ih]
    by_cases hpath : target.path = path
    · subst hpath
      rw [get?_patch, targetsAt_cons_self, Option.map_map]
      rfl
    · rw [get?_patch_ne hpath, targetsAt_cons_ne hpath]

/-! ### Runs in which nothing fails -/

namespace MemoryStore

/-- No call fails by itself. -/
def IsFaultFree (memory : MemoryStore) : Prop :=
  memory.readFaults = [] ∧ memory.writeFaults = []

/-- The files of all targets are there. -/
def Holds (memory : MemoryStore) (targets : List Target) : Prop :=
  ∀ target ∈ targets, (memory.texts.get? target.path).isSome

instance (memory : MemoryStore) (targets : List Target) : Decidable (memory.Holds targets) :=
  List.decidableBAll _ targets

variable {memory : MemoryStore} {version : String}

/-- Completed steps patch the texts of their targets. -/
lemma putAll_flatMap_writes {steps : List Step} :
    ∀ {texts : Texts}, memory.Completes version texts steps →
      texts.putAll (steps.flatMap (Step.writes version)) =
        texts.patchAll version (steps.map Step.target) := by
  induction steps with
  | nil => exact fun _ => rfl
  | cons step steps ih =>
    rintro texts ⟨-, ht, -, hrest⟩
    rw [List.flatMap_cons, Texts.putAll_append, ih hrest, Texts.putAll_writes ht]
    rfl

/-- **Where nothing fails, the steps of all targets are completed.**

**Proof sketch.** The steps up to the first target that fails are completed
(`MemoryStore.exists_completes`). No call is refused, and the file of every target is still there after
these steps, since they delete no path; so there is no such target. -/
theorem exists_completes_all (version : String) {targets : List Target} (hf : memory.IsFaultFree)
    (hh : memory.Holds targets) :
    ∃ steps, steps.map Step.target = targets ∧ memory.Completes version memory.texts steps := by
  obtain ⟨steps, hsteps, hend⟩ := memory.exists_completes version targets memory.texts
  rcases hend with rfl | ⟨target, rest, last, fault, rfl, hfails⟩
  · exact ⟨steps, rfl, hsteps⟩
  · exfalso
    cases hfails with
    | refusedRead hr => simp [hf.1] at hr
    | missing hr ht =>
      have hsome := hh target (by simp)
      rw [Texts.isSome_get?_iff, ← map_fst_of_completes hsteps, ← Texts.isSome_get?_iff, ht] at hsome
      simp at hsome
    | refusedWrite hr ht hc hw => simp [hf.2] at hw

/-- **The texts that a run leaves in which nothing fails**: each target has patched its own. -/
theorem texts_applyVersion {targets : List Target} (hf : memory.IsFaultFree)
    (hh : memory.Holds targets) :
    (applyVersion store version targets memory).after.texts =
      memory.texts.patchAll version targets := by
  obtain ⟨steps, rfl, hsteps⟩ := exists_completes_all version hf hh
  rw [applyVersion_of_completes hsteps]
  exact putAll_flatMap_writes hsteps

/-- A run in which nothing fails leaves texts over which nothing fails. -/
lemma isFaultFree_applyVersion (version : String) {targets : List Target} (hf : memory.IsFaultFree)
    (hh : memory.Holds targets) :
    (applyVersion store version targets memory).after.IsFaultFree ∧
      (applyVersion store version targets memory).after.Holds targets := by
  obtain ⟨steps, rfl, hsteps⟩ := exists_completes_all version hf hh
  rw [applyVersion_of_completes hsteps]
  refine ⟨hf, fun target hm => ?_⟩
  rw [Texts.isSome_get?_iff]
  have hpaths := map_fst_of_completes hsteps
  unfold afterSteps
  rw [hpaths, ← Texts.isSome_get?_iff]
  exact hh target hm

end MemoryStore

end Workbench
