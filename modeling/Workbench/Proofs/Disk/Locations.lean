import Workbench.Disk.Tree
import Workbench.Proofs.Checks

set_option relaxedAutoImplicit false
set_option autoImplicit false

/-!
# Where the files of a disk are

The location that a path leads to depends on the directories of a disk alone, and writing a file makes
no directory. So a path keeps its location while files are written, and what can be read and written is
told by the entry at that location.

## Main definitions

* `Workbench.Disk.locate?` — the location of the file that a path leads to.
* `Workbench.Disk.text?` — the text of the file at a location.
* `Workbench.Disk.HasShapeOf` — the same directories, and the same refusals.

## Main results

* `Workbench.Disk.textOf?_eq_some_iff` — a file holds a text exactly if it holds the octets of it.
* `Workbench.Disk.HasShapeOf.locate?_eq` — paths keep their locations.
* `Workbench.Disk.readText_eq_ok_iff`, `Workbench.Disk.writable_eq_ok_iff` — what can be read and
  written.
* `Workbench.Disk.hasShapeOf_put` — writing a file makes no directory.
-/

namespace Workbench.Disk

/-! ### Texts as octets -/

/-- The octets of an array that are listed from a place on stand behind those that were listed. -/
lemma toListLoop_eq (bs : ByteArray) (i : Nat) (listed : List UInt8) :
    ByteArray.toList.loop bs i listed = listed.reverse ++ bs.data.toList.drop i := by
  fun_induction ByteArray.toList.loop bs i listed with
  | case1 i listed hi ih =>
    have hlength : i < bs.data.toList.length := by simpa using hi
    have hoctet : bs.get! i = bs.data.toList[i] := getElem!_pos bs.data i hi
    rw [ih, hoctet, List.drop_eq_getElem_cons hlength]
    simp
  | case2 i listed hi =>
    have hlength : bs.data.toList.length ≤ i := by simpa using hi
    rw [List.drop_eq_nil_of_le hlength, List.append_nil]

/-- An array of octets is listed from its start. -/
lemma toList_eq (bs : ByteArray) : bs.toList = bs.data.toList := by
  rw [ByteArray.toList, toListLoop_eq]
  simp

/-- **A file holds a text exactly if it holds the octets of the text.** -/
theorem textOf?_eq_some_iff {content : Content} {text : String} :
    textOf? content = some text ↔ content = octetsOf text := by
  cases content with
  | font strike => simp [textOf?, octetsOf]
  | octets bs =>
    have harray : ∀ array : ByteArray, bs.toByteArray = array ↔ bs = array.toList := fun array => by
      rw [ByteArray.ext_iff, List.data_toByteArray, toList_eq, ← Array.toList_inj]
    simp only [textOf?, octetsOf, Content.octets.injEq, String.fromUTF8?, ← harray]
    constructor
    · intro h
      split at h
      · obtain rfl := Option.some.inj h
        rfl
      · simp at h
    · intro h
      rw [h]
      exact dif_pos text.isValidUTF8

/-! ### Locations -/

/-- A path leads to a place in the directory that its other names lead to. -/
lemma follow_eq (disk : Disk) (path : String) :
    disk.follow path =
      if path.toList.contains '\x00' then .error .nulInPath
      else if path.isEmpty then .error .noEntry
      else if longestPath < path.utf8ByteSize then .error .nameTooLong
      else
        ((names path).1.dropLast.foldlM disk.enter (if Path.isAbsolute path then [] else disk.start)).map
          fun parent => placeOf parent ((names path).1.getLast?.getD "") (names path).2 := by
  unfold follow
  dsimp only
  by_cases hnul : path.toList.contains '\x00' = true
  · rw [if_pos hnul, if_pos hnul]
    rfl
  rw [if_neg hnul, if_neg hnul]
  by_cases hempty : path.isEmpty = true
  · rw [if_pos hempty, if_pos hempty]
    rfl
  rw [if_neg hempty, if_neg hempty]
  by_cases hlength : longestPath < path.utf8ByteSize
  · rw [if_pos hlength, if_pos hlength]
    rfl
  · rw [if_neg hlength, if_neg hlength]
    rfl

/-- The location of the file that a path leads to: the location of a name in a directory that is there.
A path that ends with a slash, or that leads to a directory by its form, leads to no file. -/
def locate? (disk : Disk) (path : String) : Option Location :=
  match disk.follow path with
  | .ok (.named parent name false) =>
    if longestName < name.utf8ByteSize then none else some (parent ++ [name])
  | _ => none

/-- The text of the file at a location, if there is a file that holds a text. -/
def text? (disk : Disk) (location : Location) : Option String :=
  match disk.entry? location with
  | some (.file content) => textOf? content
  | _ => none

/-- A text is there exactly if there is a file with the octets of it. -/
lemma text?_eq_some_iff {disk : Disk} {location : Location} {text : String} :
    disk.text? location = some text ↔ disk.entry? location = some (.file (octetsOf text)) := by
  unfold text?
  split
  · next content h => simp [h, textOf?_eq_some_iff]
  · next h =>
    simp only [reduceCtorEq, false_iff]
    exact h _

/-! ### Disks of one shape -/

/-- A disk has the shape of another one: the same directories, and the same refusals. -/
structure HasShapeOf (disk model : Disk) : Prop where
  start_eq : disk.start = model.start
  readFaults_eq : disk.readFaults = model.readFaults
  writeFaults_eq : disk.writeFaults = model.writeFaults
  isDirectory_iff : ∀ location,
    disk.entry? location = some .directory ↔ model.entry? location = some .directory

namespace HasShapeOf

variable {disk model : Disk}

/-- A disk has its own shape. -/
lemma refl (disk : Disk) : disk.HasShapeOf disk := ⟨rfl, rfl, rfl, fun _ => Iff.rfl⟩

/-- Two disks have the shape of each other. -/
lemma symm (h : disk.HasShapeOf model) : model.HasShapeOf disk :=
  ⟨h.start_eq.symm, h.readFaults_eq.symm, h.writeFaults_eq.symm, fun l => (h.isDirectory_iff l).symm⟩

/-- What has the shape of a disk has the shape that the disk has. -/
lemma trans {other : Disk} (h : disk.HasShapeOf model) (h' : model.HasShapeOf other) :
    disk.HasShapeOf other :=
  ⟨h.start_eq.trans h'.start_eq, h.readFaults_eq.trans h'.readFaults_eq,
    h.writeFaults_eq.trans h'.writeFaults_eq,
    fun l => (h.isDirectory_iff l).trans (h'.isDirectory_iff l)⟩

/-- A name leads to the same directory. -/
lemma enter_ok (h : disk.HasShapeOf model) {directory after : Location} {name : String}
    (he : disk.enter directory name = .ok after) : model.enter directory name = .ok after := by
  unfold enter at he ⊢
  split at he
  · next hname => rw [if_pos hname, he]
  split at he
  · next hname hup => rw [if_neg hname, if_pos hup, he]
  split at he
  · simp at he
  · next hname hup hlength =>
    rw [if_neg hname, if_neg hup, if_neg hlength]
    split at he
    · next hentry =>
      rw [(h.isDirectory_iff _).1 hentry]
      exact he
    · simp at he
    · simp at he

/-- Names lead to the same directory. -/
lemma foldlM_enter_ok (h : disk.HasShapeOf model) {names : List String} {directory after : Location}
    (he : names.foldlM disk.enter directory = .ok after) :
    names.foldlM model.enter directory = .ok after := by
  induction names generalizing directory with
  | nil => exact he
  | cons name names ih =>
    rw [List.foldlM_cons] at he ⊢
    obtain ⟨between, hfirst, hrest⟩ := bind_eq_ok_iff.1 he
    exact bind_eq_ok_iff.2 ⟨between, h.enter_ok hfirst, ih hrest⟩

/-- A path leads to the same place. -/
lemma follow_ok (h : disk.HasShapeOf model) {path : String} {place : Place}
    (hf : disk.follow path = .ok place) : model.follow path = .ok place := by
  rw [follow_eq] at hf ⊢
  split at hf
  · simp at hf
  split at hf
  · simp at hf
  split at hf
  · simp at hf
  · next hnul hempty hlength =>
    obtain ⟨parent, hparent, hplace⟩ := map_eq_ok_iff.1 hf
    rw [h.start_eq] at hparent
    rw [if_neg hnul, if_neg hempty, if_neg hlength]
    exact map_eq_ok_iff.2 ⟨parent, h.foldlM_enter_ok hparent, hplace⟩

/-- **Paths keep their locations.** -/
theorem locate?_eq (h : disk.HasShapeOf model) (path : String) :
    disk.locate? path = model.locate? path := by
  unfold locate?
  cases hf : disk.follow path with
  | ok place => rw [h.follow_ok hf]
  | error cause =>
    cases hm : model.follow path with
    | ok place => simp [h.symm.follow_ok hm] at hf
    | error other => rfl

end HasShapeOf

/-! ### Putting a file -/

section Put

variable {disk : Disk} {location other : Location} {content : Content}

/-- What is at a location, if the first entry is told apart. -/
lemma lookup_cons (l : Location) (e : Entry) (entries : List (Location × Entry)) :
    List.lookup other ((l, e) :: entries) = if other = l then some e else entries.lookup other := by
  rw [List.lookup_cons]
  by_cases ho : other = l
  · rw [if_pos ho, beq_iff_eq.2 ho]
  · rw [if_neg ho, beq_eq_false_iff_ne.2 ho]

/-- The entries with a file at a location have the others as they were. -/
lemma lookup_putEntry (entries : List (Location × Entry)) :
    (putEntry location content entries).lookup other =
      if other = location then some (.file content) else entries.lookup other := by
  induction entries with
  | nil => rw [putEntry, lookup_cons]
  | cons entry entries ih =>
    obtain ⟨l, e⟩ := entry
    unfold putEntry
    by_cases hl : l = location
    · rw [if_pos hl, lookup_cons, lookup_cons, hl]
      by_cases ho : other = location <;> simp only [ho, if_true, if_false]
    · rw [if_neg hl, lookup_cons, lookup_cons, ih]
      by_cases ho : other = location
      · rw [if_pos ho, if_pos ho, if_neg (ho ▸ Ne.symm hl)]
      · rw [if_neg ho, if_neg ho]

/-- **A file that is put is there, and everything else stays**, if no directory is in its place. -/
theorem entry_put (h : disk.entry? location ≠ some .directory) :
    Disk.entry? (disk.put location content) other =
      if other = location then some (.file content) else disk.entry? other := by
  have hroot : location ≠ [] := by
    rintro rfl
    exact h rfl
  unfold entry? put
  by_cases ho : other = []
  · rw [if_pos ho, if_pos ho, if_neg (ho ▸ hroot.symm)]
  · rw [if_neg ho, if_neg ho, lookup_putEntry]

/-- **Writing a file makes no directory.** -/
theorem hasShapeOf_put (h : disk.entry? location ≠ some .directory) :
    (disk.put location content).HasShapeOf disk where
  start_eq := rfl
  readFaults_eq := rfl
  writeFaults_eq := rfl
  isDirectory_iff other := by
    rw [entry_put h]
    by_cases ho : other = location
    · simp [ho, h]
    · rw [if_neg ho]

end Put

/-! ### Reading and writing -/

section ReadWrite

variable {disk : Disk} {path : String} {location : Location}

/-- An access is granted where it is not refused. -/
lemma grant_eq_ok_iff {faults : List (Location × SystemError)} {granted : Unit} :
    grant faults location = .ok granted ↔ faults.lookup location = none := by
  unfold grant
  cases faults.lookup location <;> simp

/-- The content of the file that a name in a directory leads to. -/
lemma content_of_named {parent : Location} {name : String} {slash : Bool}
    (h : disk.follow path = .ok (.named parent name slash)) :
    disk.content path =
      if longestName < name.utf8ByteSize then .error .nameTooLong
      else
        grant disk.readFaults (parent ++ [name]) >>= fun _ =>
          match disk.entry? (parent ++ [name]) with
          | none => .error .noEntry
          | some .directory => .error .isDirectory
          | some (.file content) => if slash then .error .notDirectory else .ok content := by
  unfold Disk.content
  rw [h]
  by_cases hlength : longestName < name.utf8ByteSize
  · rw [if_pos hlength]
    exact if_pos hlength
  · rw [if_neg hlength]
    exact if_neg hlength

/-- The files that can be read: the path leads to the location of a file, and the system does not refuse
to read there. -/
lemma content_eq_ok_iff {content : Content} :
    disk.content path = .ok content ↔
      ∃ location, disk.locate? path = some location ∧ disk.readFaults.lookup location = none ∧
        disk.entry? location = some (.file content) := by
  unfold locate?
  cases hf : disk.follow path with
  | error cause => simp [Disk.content, hf, bind, Except.bind]
  | ok place =>
    cases place with
    | directory => simp [Disk.content, hf, bind, Except.bind, throw, throwThe, MonadExceptOf.throw]
    | named parent name slash =>
      rw [content_of_named hf]
      by_cases hlength : longestName < name.utf8ByteSize
      · cases slash <;> simp [hlength]
      rw [if_neg hlength, bind_eq_ok_iff]
      cases slash <;> rcases hentry : disk.entry? (parent ++ [name]) with _ | _ | other <;>
        simp [hlength, hentry, grant_eq_ok_iff]

/-- **The texts that can be read**: the path leads to the location of a text, and the system does not
refuse to read there. -/
theorem readText_eq_ok_iff {text : String} :
    disk.readText path = .ok text ↔
      ∃ location, disk.locate? path = some location ∧ disk.readFaults.lookup location = none ∧
        disk.text? location = some text := by
  unfold readText
  rw [bind_eq_ok_iff]
  constructor
  · rintro ⟨content, hcontent, htext⟩
    obtain ⟨location, hlocate, hgranted, hentry⟩ := content_eq_ok_iff.1 hcontent
    refine ⟨location, hlocate, hgranted, text?_eq_some_iff.2 ?_⟩
    split at htext
    · next read hread =>
      obtain rfl := Except.ok.inj htext
      rw [hentry, textOf?_eq_some_iff.1 hread]
    · simp [throw, throwThe, MonadExceptOf.throw] at htext
  · rintro ⟨location, hlocate, hgranted, htext⟩
    refine ⟨octetsOf text, content_eq_ok_iff.2 ⟨location, hlocate, hgranted, ?_⟩, ?_⟩
    · exact text?_eq_some_iff.1 htext
    · rw [textOf?_eq_some_iff.2 rfl]
      rfl

/-- The location that can be written at by a name in a directory. -/
lemma writable_of_named {parent : Location} {name : String}
    (h : disk.follow path = .ok (.named parent name false)) :
    disk.writable path =
      if longestName < name.utf8ByteSize then .error .nameTooLong
      else
        match disk.entry? (parent ++ [name]) with
        | some .directory => .error .isDirectory
        | _ => (grant disk.writeFaults (parent ++ [name])).map fun _ => parent ++ [name] := by
  unfold writable
  rw [h]
  by_cases hlength : longestName < name.utf8ByteSize
  · rw [if_pos hlength]
    exact if_pos hlength
  · rw [if_neg hlength]
    refine (if_neg hlength).trans ?_
    rcases disk.entry? (parent ++ [name]) with _ | _ | other
    · cases grant disk.writeFaults (parent ++ [name]) <;> rfl
    · rfl
    · cases grant disk.writeFaults (parent ++ [name]) <;> rfl

/-- **The locations that can be written at**: the path leads there, no directory is there, and the system
does not refuse to write there. -/
theorem writable_eq_ok_iff :
    disk.writable path = .ok location ↔
      disk.locate? path = some location ∧ disk.entry? location ≠ some .directory ∧
        disk.writeFaults.lookup location = none := by
  unfold locate?
  cases hf : disk.follow path with
  | error cause => simp [writable, hf, bind, Except.bind]
  | ok place =>
    cases place with
    | directory => simp [writable, hf, bind, Except.bind, throw, throwThe, MonadExceptOf.throw]
    | named parent name slash =>
      cases slash with
      | true => simp [writable, hf, bind, Except.bind, throw, throwThe, MonadExceptOf.throw]
      | false =>
        rw [writable_of_named hf]
        by_cases hlength : longestName < name.utf8ByteSize
        · simp [hlength]
        rw [if_neg hlength]
        simp only [if_neg hlength, Option.some.injEq]
        constructor
        · intro h
          split at h
          · simp at h
          · next hfile =>
            obtain ⟨_, hgranted, rfl⟩ := map_eq_ok_iff.1 h
            exact ⟨rfl, hfile, grant_eq_ok_iff.1 hgranted⟩
        · rintro ⟨rfl, hfile, hgranted⟩
          split
          · next hentry => exact absurd hentry hfile
          · exact map_eq_ok_iff.2 ⟨(), grant_eq_ok_iff.2 hgranted, rfl⟩

end ReadWrite

end Workbench.Disk
