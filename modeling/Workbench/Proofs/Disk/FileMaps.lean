import Mathlib.Logic.Function.Basic
import Workbench.Disk.Folder
import Workbench.Proofs.Disk.Folders
import Workbench.Proofs.Disk.Locations
import Workbench.Proofs.Version.Simulation

set_option relaxedAutoImplicit false
set_option autoImplicit false

/-!
# Folders as maps from files to texts

A path names a file, and several paths can name the same one. To whoever reads, writes and applies
versions through a folder, the disk is a map from files to texts: what is read from a file is what was
written to it last, by whichever of its paths, or else what was in it at first.

## Main definitions

* `Workbench.Folder.fileMap` — the map from files to texts that a folder of a disk stands for.
* `Workbench.Folder.textsAfter` — the texts of the files after the writings of a journal.
* `Workbench.Disk.Bears` — a disk after files of it have got texts.
* `Workbench.Folder.IsFileMap` — what the next access to a folder does.

## Main results

* `Workbench.Folder.store_follows` — a folder follows the map that it stands for.
* `Workbench.Folder.isFileMap_run` — a folder is a map from files to texts after all accesses.
-/

namespace Workbench

/-- Two faults are both those of files, whatever their causes are. -/
def Fault.BothOfFiles (fault other : Fault) : Prop :=
  (∃ cause, fault = .file cause) ∧ ∃ cause, other = .file cause

/-- Texts by the location of their file. -/
abbrev FileTexts := Location → Option String

/-- What has become of a disk after files of it have got texts: they hold the octets of the texts, and
everything else is as it was. All texts of the disk are among them. -/
structure Disk.Bears (disk : Disk) (texts : FileTexts) (now : Disk) : Prop where
  shape : now.HasShapeOf disk
  entry_eq : ∀ location, now.entry? location =
    match texts location with
    | some text => some (.file (octetsOf text))
    | none => disk.entry? location
  text?_of_none : ∀ location, texts location = none → disk.text? location = none

namespace Disk.Bears

variable {disk now : Disk} {texts : FileTexts}

/-- A disk bears its own texts. -/
lemma self (disk : Disk) : disk.Bears disk.text? disk where
  shape := .refl disk
  entry_eq location := by
    cases htext : disk.text? location with
    | none => rfl
    | some text => exact text?_eq_some_iff.1 htext
  text?_of_none _ := id

/-- The texts that a disk bears are the texts of its files. -/
lemma text?_eq (h : disk.Bears texts now) (location : Location) :
    now.text? location = texts location := by
  have hentry := h.entry_eq location
  cases htext : texts location with
  | none =>
    have hnone := h.text?_of_none location htext
    rw [htext] at hentry
    unfold text? at hnone ⊢
    rw [hentry]
    exact hnone
  | some text =>
    rw [htext] at hentry
    exact text?_eq_some_iff.2 hentry

/-- A text that is written to a file is the text of this file. -/
lemma put (h : disk.Bears texts now) {location : Location} {text : String}
    (hfile : now.entry? location ≠ some .directory) :
    disk.Bears (Function.update texts location (some text)) (now.put location (octetsOf text)) where
  shape := (hasShapeOf_put hfile).trans h.shape
  entry_eq other := by
    rw [entry_put hfile, Function.update_apply]
    by_cases ho : other = location
    · rw [if_pos ho, if_pos ho]
    · rw [if_neg ho, if_neg ho]
      exact h.entry_eq other
  text?_of_none other hnone := by
    rw [Function.update_apply] at hnone
    split at hnone
    · simp at hnone
    · exact h.text?_of_none other hnone

end Disk.Bears

namespace Folder

/-! ### The map -/

section Map

variable (folder : Folder) (disk : Disk)

/-- The location of the file that a path of the folder leads to. -/
def locate? (path : String) : Option Location := disk.locate? (Path.join folder.base path)

/-- The location that can be read at a path. -/
def readable? (path : String) : Option Location :=
  (folder.locate? disk path).filter fun location => (disk.readFaults.lookup location).isNone

/-- The location that can be written at a path. -/
def writable? (path : String) : Option Location :=
  (folder.locate? disk path).filter fun location =>
    disk.entry? location != some .directory && (disk.writeFaults.lookup location).isNone

/-- The map from files to texts that a folder of a disk stands for. A text is read where there is one,
and written where no directory is, unless the system refuses it. All calls that fail give one fault. -/
def fileMap : TextStore FileTexts where
  read path texts :=
    match (folder.readable? disk path).bind texts with
    | some text => (.ok text, texts)
    | none => (.error (.file .noEntry), texts)
  write path text texts :=
    match folder.writable? disk path with
    | some location => (.ok (), Function.update texts location (some text))
    | none => (.error (.file .noEntry), texts)

/-- The texts of the files after the writings of a journal: the one that was written last to a path of
the file, or else the one that the disk has. -/
def textsAfter (journal : TextStore.Journal) : FileTexts := fun location =>
  ((journal.find? fun written => folder.locate? disk written.1 = some location).map Prod.snd).or
    (disk.text? location)

end Map

/-! ### Single calls -/

section Calls

variable {folder : Folder} {disk now : Disk} {texts : FileTexts} {path : String}

/-- The texts that can be read at a path are the texts that the disk bears. -/
lemma readText_eq_ok_iff (h : disk.Bears texts now) {path text : String} :
    now.readText (Path.join folder.base path) = .ok text ↔
      ∃ location, folder.locate? disk path = some location ∧
        disk.readFaults.lookup location = none ∧ texts location = some text := by
  rw [Disk.readText_eq_ok_iff, h.shape.locate?_eq, h.shape.readFaults_eq]
  simp only [h.text?_eq]
  rfl

/-- The locations that can be written at are those of the disk. -/
lemma writable_eq_ok_iff (h : disk.Bears texts now) {path : String} {location : Location} :
    now.writable (Path.join folder.base path) = .ok location ↔
      folder.locate? disk path = some location ∧ now.entry? location ≠ some .directory ∧
        disk.writeFaults.lookup location = none := by
  rw [Disk.writable_eq_ok_iff, h.shape.locate?_eq, h.shape.writeFaults_eq]
  rfl

/-- A reading answers the text of the file, or it fails where there is none. -/
lemma read_cases (h : disk.Bears texts now) (path : String) :
    (∃ text, (folder.fileMap disk).read path texts = (.ok text, texts) ∧
      (folder.readable? disk path).bind texts = some text ∧
      folder.store.read path now = (.ok text, now)) ∨
    (folder.fileMap disk).read path texts = (.error (.file .noEntry), texts) ∧
      (folder.readable? disk path).bind texts = none ∧
      ∃ cause, folder.store.read path now = (.error (.file cause), now) := by
  have hiff : ∀ text, now.readText (Path.join folder.base path) = .ok text ↔
      (folder.readable? disk path).bind texts = some text := fun text => by
    rw [readText_eq_ok_iff h, Option.bind_eq_some_iff]
    refine exists_congr fun location => ?_
    rw [← and_assoc]
    simp [readable?, Option.filter_eq_some_iff]
  cases hread : now.readText (Path.join folder.base path) with
  | ok text =>
    refine .inl ⟨text, ?_, (hiff text).1 hread, read_of_ok hread⟩
    simp only [fileMap, (hiff text).1 hread]
  | error cause =>
    have hnone : (folder.readable? disk path).bind texts = none :=
      Option.eq_none_iff_forall_ne_some.2 fun text htext => by
        rw [(hiff text).2 htext] at hread
        simp at hread
    refine .inr ⟨?_, hnone, cause, read_of_error hread⟩
    simp only [fileMap, hnone]

/-- A writing puts the text into the file, or it fails where that cannot be done. -/
lemma write_cases (h : disk.Bears texts now) (path text : String) :
    (∃ location,
      (folder.fileMap disk).write path text texts =
        (.ok (), Function.update texts location (some text)) ∧
      folder.writable? disk path = some location ∧ now.entry? location ≠ some .directory ∧
      folder.store.write path text now = (.ok (), now.put location (Disk.octetsOf text))) ∨
    (folder.fileMap disk).write path text texts = (.error (.file .noEntry), texts) ∧
      folder.writable? disk path = none ∧
      ∃ cause, folder.store.write path text now = (.error (.file cause), now) := by
  have hiff : ∀ location, now.writable (Path.join folder.base path) = .ok location ↔
      folder.writable? disk path = some location := fun location => by
    rw [writable_eq_ok_iff h, Ne, h.shape.isDirectory_iff]
    simp [writable?, Option.filter_eq_some_iff]
  cases hwrite : now.writable (Path.join folder.base path) with
  | ok location =>
    have hlocation := (hiff location).1 hwrite
    refine .inl ⟨location, ?_, hlocation, ((writable_eq_ok_iff h).1 hwrite).2.1,
      write_of_ok text hwrite⟩
    simp only [fileMap, hlocation]
  | error cause =>
    have hnone : folder.writable? disk path = none :=
      Option.eq_none_iff_forall_ne_some.2 fun location hlocation => by
        rw [(hiff location).2 hlocation] at hwrite
        simp at hwrite
    refine .inr ⟨?_, hnone, cause, write_of_error text hwrite⟩
    simp only [fileMap, hnone]

end Calls

/-! ### Runs -/

section Runs

variable (folder : Folder) (disk : Disk)

/-- A location that can be written at is the one that the path leads to. -/
lemma locate?_of_writable? {folder : Folder} {disk : Disk} {path : String} {location : Location}
    (h : folder.writable? disk path = some location) : folder.locate? disk path = some location :=
  (Option.filter_eq_some_iff.1 h).1

/-- A writing changes the text of the file that its path leads to. -/
lemma textsAfter_cons {folder : Folder} {disk : Disk} {path text : String} {location : Location}
    (h : folder.locate? disk path = some location) (journal : TextStore.Journal) :
    folder.textsAfter disk ((path, text) :: journal) =
      Function.update (folder.textsAfter disk journal) location (some text) := by
  funext other
  rw [Function.update_apply]
  unfold textsAfter
  by_cases ho : other = location
  · rw [if_pos ho, List.find?_cons_of_pos (by simp [h, ho])]
    rfl
  · rw [if_neg ho, List.find?_cons_of_neg (by simp [h, Ne.symm ho])]

/-- **A folder follows the map that it stands for.** -/
theorem store_follows :
    folder.store.Follows Fault.BothOfFiles (fun now texts => disk.Bears texts now)
      (folder.fileMap disk) where
  read h path := by
    rcases read_cases h path with ⟨text, hmap, -, hread⟩ | ⟨hmap, -, cause, hread⟩ <;>
      rw [hmap, hread]
    · exact .ok text h
    · exact .error ⟨⟨cause, rfl⟩, _, rfl⟩ h
  write h path text := by
    rcases write_cases h path text with
      ⟨location, hmap, -, hfile, hwrite⟩ | ⟨hmap, -, cause, hwrite⟩ <;> rw [hmap, hwrite]
    · exact .ok () (h.put hfile)
    · exact .error ⟨⟨cause, rfl⟩, _, rfl⟩ h

/-- A folder with a journal follows the map, and the journal tells the texts of the files. -/
lemma journaled_follows :
    folder.store.journaled.Follows Fault.BothOfFiles
      (fun state texts => disk.Bears texts state.1 ∧ texts = folder.textsAfter disk state.2)
      (folder.fileMap disk) where
  read := by
    rintro ⟨now, journal⟩ texts h path
    rcases read_cases h.1 path with ⟨text, hmap, -, hread⟩ | ⟨hmap, -, cause, hread⟩ <;>
      rw [hmap, TextStore.journaled_read hread]
    · exact .ok text h
    · exact .error ⟨⟨cause, rfl⟩, _, rfl⟩ h
  write := by
    rintro ⟨now, journal⟩ texts ⟨h, htexts⟩ path text
    rcases write_cases h path text with
      ⟨location, hmap, hlocation, hfile, hwrite⟩ | ⟨hmap, -, cause, hwrite⟩
    · rw [hmap, TextStore.journaled_write_ok hwrite]
      refine .ok () ⟨h.put hfile, ?_⟩
      rw [htexts, textsAfter_cons (locate?_of_writable? hlocation)]
    · rw [hmap, TextStore.journaled_write_error hwrite]
      exact .error ⟨⟨cause, rfl⟩, _, rfl⟩ ⟨h, htexts⟩

end Runs

/-! ### Folders as maps -/

/-- A folder is a map from files to texts: what the next access to it does after a disk has become
another one by the writings of a journal. Files are told by the locations that paths lead to on the disk
at first. -/
structure IsFileMap (folder : Folder) (disk now : Disk) (journal : TextStore.Journal) : Prop where
  /-- Paths lead to the files that they led to at first. -/
  locate?_eq : ∀ path, folder.locate? now path = folder.locate? disk path
  /-- A reading succeeds where a file holds a text, if the system does not refuse it. It answers the text
  that was written last to a path of this file, or else the one that was there at first. -/
  read_iff : ∀ path text, folder.read path now = (.ok text, now) ↔
    ∃ location, folder.locate? disk path = some location ∧
      disk.readFaults.lookup location = none ∧ folder.textsAfter disk journal location = some text
  /-- A reading fails where nothing is, at a directory, and at a file that holds no text. -/
  read_fails : ∀ path, (∀ location, folder.locate? disk path = some location →
      now.entry? location = none ∨ now.entry? location = some .directory ∨
        ∃ content, now.entry? location = some (.file content) ∧ Disk.textOf? content = none) →
    ∃ cause, folder.read path now = (.error (.file cause), now)
  /-- A reading changes nothing. -/
  read_keeps : ∀ path, (folder.read path now).2 = now
  /-- A writing succeeds where no directory is, if the system does not refuse it. -/
  write_succeeds : ∀ path text location, folder.locate? disk path = some location →
    now.entry? location ≠ some .directory → disk.writeFaults.lookup location = none →
    ∃ after, folder.write path text now = (.ok (), after)
  /-- A writing that succeeds puts the octets of the text into the file that its path leads to, and
  changes nothing else. -/
  write_puts : ∀ path text after, folder.write path text now = (.ok (), after) →
    ∃ location, folder.locate? disk path = some location ∧ ∀ other, after.entry? other =
      if other = location then some (.file (Disk.octetsOf text)) else now.entry? other
  /-- A writing that fails changes nothing. -/
  write_keeps : ∀ path text fault after,
    folder.write path text now = (.error fault, after) → after = now
  /-- A version is applied as it is to the map: it answers and reports the same, but for the cause of a
  failure, and leaves the same texts. -/
  apply_agrees : ∀ version targets,
    (applyVersion folder.store version targets now).Agree Fault.BothOfFiles
      (fun after texts => disk.Bears texts after)
      (applyVersion (folder.fileMap disk) version targets (folder.textsAfter disk journal))

/-- **A disk that bears the texts of a journal is a map from files to texts.** -/
theorem isFileMap_of_bears {folder : Folder} {disk now : Disk} {journal : TextStore.Journal}
    (h : disk.Bears (folder.textsAfter disk journal) now) : folder.IsFileMap disk now journal where
  locate?_eq path := h.shape.locate?_eq _
  read_iff path text := by
    rw [← readText_eq_ok_iff h]
    unfold read
    cases now.readText (Path.join folder.base path) <;> simp
  read_fails path hnone := by
    rcases read_cases h path with ⟨text, -, htext, -⟩ | ⟨-, -, hfails⟩
    · obtain ⟨location, hlocation, htext⟩ := Option.bind_eq_some_iff.1 htext
      have hentry := Disk.text?_eq_some_iff.1 ((h.text?_eq location).trans htext)
      have hoctets := Disk.textOf?_eq_some_iff.2 (Eq.refl (Disk.octetsOf text))
      rcases hnone location (Option.filter_eq_some_iff.1 hlocation).1 with
        hn | hn | ⟨content, hn, hc⟩ <;> rw [hentry] at hn
      · simp at hn
      · simp at hn
      · obtain rfl := Entry.file.inj (Option.some.inj hn)
        simp [hoctets] at hc
    · exact hfails
  read_keeps path := folder.read_snd path now
  write_succeeds path text location hlocation hfile hgranted := by
    have hwrite := (writable_eq_ok_iff h).2 ⟨hlocation, hfile, hgranted⟩
    exact ⟨now.put location (Disk.octetsOf text), write_of_ok text hwrite⟩
  write_puts path text after hwrite := by
    rcases write_cases h path text with
      ⟨location, -, hlocation, hfile, hput⟩ | ⟨-, -, cause, hfails⟩
    · obtain rfl : now.put location (Disk.octetsOf text) = after :=
        congrArg Prod.snd (hput.symm.trans hwrite)
      exact ⟨location, locate?_of_writable? hlocation, fun other => Disk.entry_put hfile⟩
    · exact absurd (congrArg Prod.fst (hfails.symm.trans hwrite)) (by simp)
  write_keeps path text fault after hwrite := (fault_of_write hwrite).2
  apply_agrees version targets := (folder.store_follows disk).applyVersion h version targets

/-- The journal of accesses to a folder: the writings that succeeded, latest first, those of versions
that were applied among them. -/
def journalOf (folder : Folder) (disk : Disk) (accesses : List Access) : TextStore.Journal :=
  (folder.store.journaled.run accesses (disk, [])).2.2

/-- **A folder is a map from files to texts** after all accesses. Their answers are those of the map, but
for the causes of failures.

**Proof sketch.** The folder with a journal follows the map (`journaled_follows`), so the disk bears the
texts that the journal tells, and the journal changes nothing (`TextStore.run_journaled`). -/
theorem isFileMap_run (folder : Folder) (disk : Disk) (accesses : List Access) :
    let now := (folder.store.run accesses disk).2
    (folder.store.journaled.run accesses (disk, [])).2.1 = now ∧
      folder.IsFileMap disk now (folder.journalOf disk accesses) ∧
      List.Forall₂ (Answer.Agree Fault.BothOfFiles) (folder.store.run accesses disk).1
        ((folder.fileMap disk).run accesses disk.text?).1 ∧
      disk.Bears ((folder.fileMap disk).run accesses disk.text?).2 now := by
  intro now
  have hnow : (folder.store.journaled.run accesses (disk, [])).2.1 = now :=
    folder.store.run_journaled accesses disk []
  have hfirst : disk.Bears disk.text? disk ∧ disk.text? = folder.textsAfter disk [] :=
    ⟨.self disk, rfl⟩
  obtain ⟨-, hbears, htexts⟩ := (folder.journaled_follows disk).run (s := (disk, [])) hfirst accesses
  rw [htexts, hnow] at hbears
  obtain ⟨hanswers, hafter⟩ := (folder.store_follows disk).run (.self disk) accesses
  exact ⟨hnow, isFileMap_of_bears hbears, hanswers, hafter⟩

end Folder

end Workbench
