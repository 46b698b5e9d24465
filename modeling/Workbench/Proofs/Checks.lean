import Mathlib.Tactic.Lemma
import Workbench.Check
import Workbench.Finish
import Workbench.Version.TargetList

set_option relaxedAutoImplicit false
set_option autoImplicit false

/-!
# What the checks accept

A check answers a fault or nothing. Here is, for each check that versions and targets go through,
the exact set of values that it accepts, in terms of the characters of the value.

## Main definitions

* `Workbench.Target.IsAcceptable` — what the check of a target asks for.

## Main results

* `Workbench.Check.path_eq_error_iff`, `Workbench.Check.notBlank_eq_error_iff` — why a path or a text is
  refused.
* `Workbench.Check.version_eq_ok_iff` — the versions that are accepted.
* `Workbench.Target.check_eq_ok_iff` — the targets that are accepted.
* `Workbench.checkTargets_eq_ok_iff` — the lists of targets that are accepted.
* `Workbench.severity_of_checkTargets` — the faults that other lists give are of one severity.
-/

namespace Workbench

/-- Two parts of a computation that may fail give a value if both do. -/
lemma bind_eq_ok_iff {ε α β : Type} {first : Except ε α} {next : α → Except ε β} {value : β} :
    (first >>= next) = .ok value ↔ ∃ a, first = .ok a ∧ next a = .ok value := by
  cases first with
  | error fault => simp [bind, Except.bind]
  | ok a => simp [bind, Except.bind]

/-- Two parts of a computation that may fail do so as the first of them that fails. -/
lemma bind_eq_error_iff {ε α β : Type} {first : Except ε α} {next : α → Except ε β} {fault : ε} :
    (first >>= next) = .error fault ↔
      first = .error fault ∨ ∃ a, first = .ok a ∧ next a = .error fault := by
  cases first with
  | error other => simp [bind, Except.bind]
  | ok a => simp [bind, Except.bind]

/-- What is made of the value of a computation that may fail is there if the value is. -/
lemma map_eq_ok_iff {ε α β : Type} {first : Except ε α} {f : α → β} {value : β} :
    first.map f = .ok value ↔ ∃ a, first = .ok a ∧ f a = value := by
  cases first <;> simp [Except.map]

/-- A check that follows another one is passed if both are. -/
lemma seq_eq_ok_iff {ε : Type} {first : Except ε Unit} {second : Except ε Unit} :
    (first >>= fun _ => second) = .ok () ↔ first = .ok () ∧ second = .ok () :=
  bind_eq_ok_iff.trans ⟨fun ⟨_, hfirst, hsecond⟩ => ⟨hfirst, hsecond⟩, fun h => ⟨(), h⟩⟩

/-- A check that follows another one fails as the first of the two does that fails. -/
lemma seq_eq_error_iff {ε : Type} {first : Except ε Unit} {second : Except ε Unit} {fault : ε} :
    (first >>= fun _ => second) = .error fault ↔
      first = .error fault ∨ first = .ok () ∧ second = .error fault :=
  bind_eq_error_iff.trans
    ⟨fun h => h.imp_right fun ⟨_, hfirst, hsecond⟩ => ⟨hfirst, hsecond⟩,
      fun h => h.imp_right fun hsecond => ⟨(), hsecond⟩⟩

/-- A check of a condition fails if it is met, or else as what follows does. -/
lemma ite_eq_error_iff {ε α : Type} {p : Prop} [Decidable p] {first fault : ε} {next : Except ε α} :
    (if p then .error first else next) = .error fault ↔
      p ∧ fault = first ∨ ¬ p ∧ next = .error fault := by
  by_cases hp : p
  · rw [if_pos hp, Except.error.injEq, eq_comm]
    simp [hp]
  · simp [hp]

/-- A check that follows another one fails as one of the two does. -/
lemma or_of_seq_eq_error {ε : Type} {first : Except ε Unit} {second : Except ε Unit} {fault : ε}
    (h : (first >>= fun _ => second) = .error fault) : first = .error fault ∨ second = .error fault :=
  (seq_eq_error_iff.1 h).imp_right And.right

/-- A wrong setting ends a run with status 1. -/
lemma failureStatus_of_high {fault : Fault} (h : fault.severity = .high) : fault.failureStatus = 1 := by
  rw [Fault.failureStatus, Fault.exitStatus, h]
  rfl

/-! ### Single values -/

namespace Check

variable {field value : String}

/-- Why a path is refused: it is empty, or else it holds the character that ends paths. -/
lemma path_eq_error_iff {fault : Fault} :
    path field value = .error fault ↔
      value = "" ∧ fault = .badValue field value "Path cannot be empty" ∨
      value ≠ "" ∧ '\x00' ∈ value.toList ∧ fault = .badValue field value "Path contains null bytes" := by
  unfold path
  rw [ite_eq_error_iff, ite_eq_error_iff, String.isEmpty_iff, List.contains_iff_mem]
  simp

/-- A path that is refused is a wrong setting. -/
lemma severity_of_path {fault : Fault} (h : path field value = .error fault) :
    fault.severity = .high := by
  rcases path_eq_error_iff.1 h with ⟨-, rfl⟩ | ⟨-, -, rfl⟩
  · rfl
  · rfl

/-- A text is refused as blank if all its characters are blanks. -/
lemma notBlank_eq_error_iff {fault : Fault} :
    notBlank field value = .error fault ↔
      (∀ c ∈ value.toList, Text.isBlank c = true) ∧
        fault = .badValue field value "Value cannot be empty or whitespace-only" := by
  unfold notBlank Text.isBlankString
  rw [ite_eq_error_iff, List.all_eq_true]
  simp

/-- A blank text that is refused is a wrong setting. -/
lemma severity_of_notBlank {fault : Fault} (h : notBlank field value = .error fault) :
    fault.severity = .high := by
  obtain ⟨-, rfl⟩ := notBlank_eq_error_iff.1 h
  rfl

/-- The paths that are accepted. -/
lemma path_eq_ok_iff : path field value = .ok () ↔ value ≠ "" ∧ '\x00' ∉ value.toList := by
  unfold path
  split
  · next h => simp_all [String.isEmpty_iff]
  · next h =>
    split
    · next h0 => simp_all
    · next h0 => simp_all [String.isEmpty_iff]

/-- The texts that are not blank. -/
lemma notBlank_eq_ok_iff :
    notBlank field value = .ok () ↔ ∃ c ∈ value.toList, Text.isBlank c = false := by
  unfold notBlank Text.isBlankString
  split
  · next h => simpa using h
  · next h => simpa using h

/-- **The versions that are accepted**: they are not blank, and nothing in them ends them early. -/
theorem version_eq_ok_iff :
    version field value = .ok () ↔
      (∃ c ∈ value.toList, Text.isBlank c = false) ∧ ∀ c ∈ value.toList, endsVersion c = false := by
  unfold version
  rw [seq_eq_ok_iff, notBlank_eq_ok_iff]
  split
  · next h => simpa using fun _ _ _ => h
  · next h => simpa using fun _ _ _ => h

/-- An accepted version is not empty. -/
lemma ne_nil_of_version (h : version field value = .ok ()) : value.toList ≠ [] := by
  obtain ⟨⟨c, hc, -⟩, -⟩ := version_eq_ok_iff.1 h
  exact List.ne_nil_of_mem hc

/-- An accepted version holds no line feed. -/
lemma lineFeed_notMem_of_version (h : version field value = .ok ()) : '\n' ∉ value.toList :=
  fun hm => absurd ((version_eq_ok_iff.1 h).2 _ hm) (by decide)

/-- An accepted version holds no quotation mark. -/
lemma quote_notMem_of_version (h : version field value = .ok ()) : '"' ∉ value.toList :=
  fun hm => absurd ((version_eq_ok_iff.1 h).2 _ hm) (by decide)

/-- An accepted version holds no carriage return. -/
lemma return_notMem_of_version (h : version field value = .ok ()) : '\r' ∉ value.toList :=
  fun hm => absurd ((version_eq_ok_iff.1 h).2 _ hm) (by decide)

end Check

/-! ### Targets -/

/-- What the check of a target asks for: the path can be a path, the lead is not blank and stays on
one line. Nothing is asked of the tail. -/
structure Target.IsAcceptable (target : Target) : Prop where
  path_ne : target.path ≠ ""
  path_noNul : '\x00' ∉ target.path.toList
  lead_notBlank : ∃ c ∈ target.lead.toList, Text.isBlank c = false
  lead_noLineFeed : '\n' ∉ target.lead.toList

/-- The targets that are accepted, at any place of a list. -/
theorem Target.check_eq_ok_iff {index : Nat} {target : Target} :
    target.check index = .ok () ↔ target.IsAcceptable := by
  unfold Target.check
  rw [seq_eq_ok_iff, seq_eq_ok_iff, Check.path_eq_ok_iff, Check.notBlank_eq_ok_iff]
  constructor
  · rintro ⟨⟨hpath, hnul⟩, hblank, hfeed⟩
    refine ⟨hpath, hnul, hblank, fun hm => ?_⟩
    simp [hm] at hfeed
  · intro h
    refine ⟨⟨h.path_ne, h.path_noNul⟩, h.lead_notBlank, ?_⟩
    simp [h.lead_noLineFeed]

/-- The targets from a place on are accepted if each of them is. -/
lemma checkTargetsFrom_eq_ok_iff {targets : List Target} :
    ∀ {index : Nat}, checkTargetsFrom index targets = .ok () ↔
      ∀ target ∈ targets, target.IsAcceptable := by
  induction targets with
  | nil => simp [checkTargetsFrom]
  | cons target targets ih =>
    intro index
    rw [checkTargetsFrom, seq_eq_ok_iff, Target.check_eq_ok_iff, ih]
    simp

/-- A target that is refused is a wrong setting. -/
lemma Target.severity_of_check {index : Nat} {target : Target} {fault : Fault}
    (h : target.check index = .error fault) : fault.severity = .high := by
  unfold Target.check at h
  rcases or_of_seq_eq_error h with h | h
  · exact Check.severity_of_path h
  rcases or_of_seq_eq_error h with h | h
  · exact Check.severity_of_notBlank h
  split at h
  · obtain rfl := Except.error.inj h
    rfl
  · simp at h

/-- The targets from a place on are refused as the first of them that is refused. -/
lemma severity_of_checkTargetsFrom {targets : List Target} {fault : Fault} :
    ∀ {index : Nat}, checkTargetsFrom index targets = .error fault → fault.severity = .high := by
  induction targets with
  | nil => simp [checkTargetsFrom]
  | cons target targets ih =>
    intro index h
    rcases or_of_seq_eq_error h with h | h
    · exact Target.severity_of_check h
    · exact ih h

/-- A list of targets that is refused is a wrong setting. -/
theorem severity_of_checkTargets {targets : List Target} {fault : Fault}
    (h : checkTargets targets = .error fault) : fault.severity = .high := by
  unfold checkTargets at h
  split at h
  · obtain rfl := Except.error.inj h
    rfl
  · exact severity_of_checkTargetsFrom h

/-- **The lists of targets that are accepted**: there is a target, and each one is acceptable. -/
theorem checkTargets_eq_ok_iff {targets : List Target} :
    checkTargets targets = .ok () ↔
      targets ≠ [] ∧ ∀ target ∈ targets, target.IsAcceptable := by
  cases targets with
  | nil => simp [checkTargets]
  | cons target targets => simp [checkTargets, checkTargetsFrom_eq_ok_iff]

end Workbench
