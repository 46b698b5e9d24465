import Workbench.Disk.Folder
import Workbench.Proofs.Version.Trace

set_option relaxedAutoImplicit false
set_option autoImplicit false

/-!
# Runs over folders that fail

Reading a file of a folder changes nothing, and a writing that fails changes nothing either. So a run
over a folder that fails leaves the disk as the targets before the failing one have left it, and its
fault is one of a file.

## Main results

* `Workbench.Folder.apply_of_error` — a step that fails leaves the disk.
* `Workbench.Folder.exists_of_applyVersion_eq_error` — a run that fails leaves what a run over the
  targets before the failing one leaves.
-/

namespace Workbench.Folder

variable {folder : Folder} {version : String}

/-! ### Accesses -/

section Accesses

variable {path : String} {disk : Disk}

/-- Reading a text that the disk has. -/
lemma read_of_ok {text : String} (h : disk.readText (Path.join folder.base path) = .ok text) :
    folder.read path disk = (.ok text, disk) := by
  unfold read
  rw [h]

/-- Reading what is no text of the disk. -/
lemma read_of_error {cause : SystemError}
    (h : disk.readText (Path.join folder.base path) = .error cause) :
    folder.read path disk = (.error (.file cause), disk) := by
  unfold read
  rw [h]

/-- Writing to a path that can be written to. -/
lemma write_of_ok {location : Location} (text : String)
    (h : disk.writable (Path.join folder.base path) = .ok location) :
    folder.write path text disk = (.ok (), disk.put location (Disk.octetsOf text)) := by
  unfold write Disk.writeText
  rw [h]
  rfl

/-- Writing to a path that cannot be written to. -/
lemma write_of_error {cause : SystemError} (text : String)
    (h : disk.writable (Path.join folder.base path) = .error cause) :
    folder.write path text disk = (.error (.file cause), disk) := by
  unfold write Disk.writeText
  rw [h]
  rfl

end Accesses

/-- Reading leaves the disk. -/
lemma read_snd (folder : Folder) (path : String) (disk : Disk) : (folder.read path disk).2 = disk := by
  unfold read
  split <;> rfl

/-- A reading that fails is the fault of a file. -/
lemma fault_of_read {path : String} {disk after : Disk} {fault : Fault}
    (h : folder.read path disk = (.error fault, after)) : ∃ cause, fault = .file cause := by
  unfold read at h
  split at h
  · simp at h
  · next cause hcause => exact ⟨cause, (Except.error.inj (congrArg Prod.fst h)).symm⟩

/-- A writing that fails is the fault of a file, and leaves the disk. -/
lemma fault_of_write {path text : String} {disk after : Disk} {fault : Fault}
    (h : folder.write path text disk = (.error fault, after)) :
    (∃ cause, fault = .file cause) ∧ after = disk := by
  unfold write at h
  split at h
  · simp at h
  · next cause hcause =>
    exact ⟨⟨cause, (Except.error.inj (congrArg Prod.fst h)).symm⟩, (congrArg Prod.snd h).symm⟩

/-! ### Steps and runs -/

/-- **A step that fails leaves the disk**, and its fault is one of a file. -/
theorem apply_of_error {target : Target} {disk : Disk} {fault : Fault}
    (h : (target.apply folder.store version disk).result = .error fault) :
    (∃ cause, fault = .file cause) ∧ (target.apply folder.store version disk).after = disk := by
  have hstay := folder.read_snd target.path disk
  cases hread : folder.store.read target.path disk with
  | mk answer between =>
    obtain rfl : between = disk := (congrArg Prod.snd hread).symm.trans hstay
    cases answer with
    | error other =>
      rw [apply_of_read_error folder.store version hread] at h ⊢
      obtain rfl := Except.error.inj h
      exact ⟨fault_of_read hread, rfl⟩
    | ok text =>
      by_cases hc : (target.patch version text).1 = text
      · rw [apply_of_same folder.store version hread hc] at h
        simp at h
      · cases hwrite : folder.store.write target.path (target.patch version text).1 between with
        | mk answer after =>
          cases answer with
          | ok value =>
            rw [apply_of_write_ok folder.store version hread hc hwrite] at h
            simp at h
          | error other =>
            rw [apply_of_write_error folder.store version hread hc hwrite] at h ⊢
            obtain rfl := Except.error.inj h
            exact fault_of_write hwrite

/-- **A run that fails leaves what a run over the targets before the failing one leaves.** Its fault is
one of a file.

**Proof sketch.** The run ends as the step of the failing target does, from the disk that the targets
before it leave (`exists_of_applyVersion_eq_error`), and that step leaves this disk. -/
theorem exists_of_applyVersion_eq_error {targets : List Target} {disk : Disk} {fault : Fault}
    (h : (applyVersion folder.store version targets disk).result = .error fault) :
    (∃ cause, fault = .file cause) ∧
      ∃ done target rest report, targets = done ++ target :: rest ∧
        (applyVersion folder.store version done disk).result = .ok report ∧
        (applyVersion folder.store version targets disk).after =
          (applyVersion folder.store version done disk).after := by
  obtain ⟨done, target, rest, report, htargets, hdone, hstep, hafter⟩ :=
    Workbench.exists_of_applyVersion_eq_error folder.store version h
  obtain ⟨hcause, hstay⟩ := apply_of_error hstep
  exact ⟨hcause, done, target, rest, report, htargets, hdone, hafter.trans hstay⟩

end Workbench.Folder
