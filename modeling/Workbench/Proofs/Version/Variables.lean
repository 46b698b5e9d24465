import Workbench.Proofs.Toml.Extent
import Workbench.Proofs.Toml.Tables
import Workbench.Proofs.Version.Documents

set_option relaxedAutoImplicit false
set_option autoImplicit false

/-!
# Paths from the environment

A document can refer to the environment between the marks of a path. The value is put there as it is,
before the document is read, and then what stands between the marks is read as a text like any other.
So a value comes out as it went in exactly if all of its characters stand for themselves there.

## Main definitions

* `Workbench.tableWithPath` — the table of a target with something between the marks of its path.

## Main results

* `Workbench.substitute_tableWithPath` — the value of a name is put between the marks.
* `Workbench.path_of_holdsFirst` — the first target has the path that the first table has.
* `Workbench.targetsOfText_reference_iff` — the values that come out as they went in.
* `Workbench.not_targetsOfText_reference` — a value with a backslash comes out as another one.
-/

namespace Workbench

open Toml (Value Fields Statement)

/-- The table of a target with something between the marks of its path, above the lines of its other
texts. -/
def tableWithPath (body lines : List Char) : List Char :=
  Toml.headerLine "targets" ++ ("path".toList ++ ' ' :: '=' :: ' ' :: Toml.quotationMark ::
    (body ++ Toml.quotationMark :: '\n' :: lines))

/-! ### Values that are put in -/

section Put

variable {environment : Environment} {name lines : List Char} {value : String}

/-- **The value of a name is put between the marks**, and nothing else is replaced. -/
lemma substitute_tableWithPath (hname : name ≠ []) (hclosed : '\x7d' ∉ name)
    (hset : environment.get? (String.ofList name) = some value)
    (hleaves : environment.LeavesAlone lines) :
    environment.substitute (tableWithPath (Environment.reference name) lines) =
      tableWithPath value.toList lines := by
  have hshape : ∀ body, tableWithPath body lines =
      "[[targets]]\npath = \"".toList ++ (body ++ (['"', '\n'] ++ lines)) := fun _ => rfl
  have hfront : '$' ∉ "[[targets]]\npath = \"".toList := by decide
  have hback : '$' ∉ ['"', '\n'] := by decide
  have hinsertion : environment.insertion name = value.toList := by
    rw [Environment.insertion, hset]
  rw [hshape, hshape, Environment.substitute_append_of_notMem _ hfront,
    Environment.substitute_reference _ hname hclosed, hinsertion,
    Environment.substitute_append_of_notMem _ hback, Environment.substitute_of_unset hleaves]

end Put

/-! ### Values that stand for themselves -/

/-- A table with a path that stands for itself is a table of the target. -/
lemma isTable_tableWithPath {target : Target} {lines : List Char}
    (hlines : Toml.AreFields target.fields.tail lines)
    (h : ∀ c ∈ target.path.toList, Toml.isVerbatim c = true) :
    target.IsTable (tableWithPath target.path.toList lines) := by
  have hpath : Toml.IsField "path" target.path ("path".toList ++ ' ' :: '=' :: ' ' ::
      Toml.quotationMark :: (target.path.toList ++ [Toml.quotationMark, '\n'])) :=
    ⟨_, Toml.spellsAll_verbatim h, rfl⟩
  exact ⟨_, .cons hpath hlines, by simp [tableWithPath]⟩

/-! ### Values that come back -/

section Back

variable {s : String}

/-- A field that must be there is what was found. -/
lemma eq_some_of_demand {α : Type} {name : String} {found : Option α} {a : α}
    (h : TargetDraft.demand name found = .ok a) : found = some a := by
  unfold TargetDraft.demand at h
  split at h
  · exact congrArg some (Except.ok.inj h)
  · simp at h

/-- The path that a target has so far, if it has one, is a given text. -/
def TargetDraft.HasPath (s : String) (draft : TargetDraft) : Prop :=
  ∀ path, draft.path = some path → path = s

/-- A key of a table changes the path only if it is that of the path. -/
lemma TargetDraft.HasPath.add {draft after : TargetDraft} {key : String} {v : Value}
    (hdraft : draft.HasPath s) (hv : key = "path" → v = .text s) (h : draft.add key v = .ok after) :
    after.HasPath s := by
  unfold TargetDraft.add at h
  split at h
  · obtain rfl := hv rfl
    obtain rfl := Except.ok.inj h
    exact fun path hpath => (Option.some.inj hpath).symm
  · obtain ⟨text, -, rfl⟩ := map_eq_ok_iff.1 h
    exact hdraft
  · obtain ⟨style, -, rfl⟩ := map_eq_ok_iff.1 h
    exact hdraft
  · obtain ⟨text, -, rfl⟩ := map_eq_ok_iff.1 h
    exact hdraft
  · split at h
    · obtain rfl := Except.ok.inj h
      exact hdraft
    · simp at h

/-- The keys of a table give the path that they have. -/
lemma TargetDraft.HasPath.addAll {draft after : TargetDraft} {fields : Fields}
    (hdraft : draft.HasPath s) (hfields : ∀ v, ("path", v) ∈ fields → v = .text s)
    (h : TargetDraft.addAll fields draft = .ok after) : after.HasPath s := by
  induction fields generalizing draft with
  | nil =>
    obtain rfl := Except.ok.inj h
    exact hdraft
  | cons field fields ih =>
    obtain ⟨key, v⟩ := field
    obtain ⟨between, hadd, hrest⟩ := bind_eq_ok_iff.1 h
    have hkey : key = "path" → v = .text s := by
      rintro rfl
      exact hfields v List.mem_cons_self
    exact ih (hdraft.add hkey hadd) (fun w hw => hfields w (List.mem_cons_of_mem _ hw)) hrest

/-- The target of a table has the path that the table has. -/
lemma path_of_ofFields {fields : Fields} {target : Target} (h : fields.HoldsText "path" s)
    (ht : Target.ofFields fields = .ok target) : target.path = s := by
  obtain ⟨draft, hdraft, hcomplete⟩ := bind_eq_ok_iff.1 ht
  obtain ⟨path, hpath, hcomplete⟩ := bind_eq_ok_iff.1 hcomplete
  obtain ⟨lead, -, hcomplete⟩ := bind_eq_ok_iff.1 hcomplete
  obtain ⟨style, -, hcomplete⟩ := bind_eq_ok_iff.1 hcomplete
  obtain rfl := Except.ok.inj hcomplete
  have hstart : TargetDraft.HasPath s {} := fun path hpath => by simp at hpath
  exact hstart.addAll h.kind_of_mem hdraft path (eq_some_of_demand hpath)

/-- The targets of a document start with one that has a path, if the first table has it and those found
before start so. -/
lemma path_of_targetsOfFieldsFrom {fields : Fields} {found : Option (List Target)}
    {targets : List Target}
    (hfields : ∀ v, ("targets", v) ∈ fields →
      ∃ row rows, v = .tables (row :: rows) ∧ Fields.HoldsText "path" s row)
    (hfound : ∀ before, found = some before → ∃ target rest, before = target :: rest ∧ target.path = s)
    (h : targetsOfFieldsFrom found fields = .ok targets) :
    ∃ target rest, targets = target :: rest ∧ target.path = s := by
  induction fields generalizing found with
  | nil => exact hfound targets (eq_some_of_demand h)
  | cons field fields ih =>
    obtain ⟨key, v⟩ := field
    have hrest : ∀ v, ("targets", v) ∈ fields →
        ∃ row rows, v = .tables (row :: rows) ∧ Fields.HoldsText "path" s row :=
      fun w hw => hfields w (List.mem_cons_of_mem _ hw)
    unfold targetsOfFieldsFrom at h
    split at h
    · next hkey =>
      subst hkey
      obtain ⟨row, rows, rfl, hrow⟩ := hfields v List.mem_cons_self
      obtain ⟨listed, hlisted, htargets⟩ := bind_eq_ok_iff.1 h
      refine ih hrest ?_ htargets
      rintro before hbefore
      obtain rfl := Option.some.inj hbefore
      rw [targetsOfValue, List.mapM_cons] at hlisted
      obtain ⟨first, hfirst, hlisted⟩ := bind_eq_ok_iff.1 hlisted
      obtain ⟨others, -, hlisted⟩ := bind_eq_ok_iff.1 hlisted
      obtain rfl := Except.ok.inj hlisted
      exact ⟨first, others, rfl, path_of_ofFields hrow hfirst⟩
    · split at h
      · exact ih hrest hfound h
      · simp at h

/-- **The first target of a document has the path that the first table has.** -/
theorem path_of_holdsFirst {fields : Fields} {target : Target} {targets : List Target}
    (h : fields.HoldsFirst "targets" "path" s)
    (ht : targetsOfFields fields = .ok (target :: targets)) : target.path = s := by
  obtain ⟨first, rest, heq, hpath⟩ := path_of_targetsOfFieldsFrom h.kind_of_mem (by simp) ht
  obtain ⟨rfl, -⟩ := List.cons.inj heq
  exact hpath

/-- **A path that comes back as it was put between the marks** stands for itself.

**Proof sketch.** The table opens with the path, so it is the path of the first target
(`Toml.holdsFirst_of_assemble`, `path_of_holdsFirst`). What comes back as it was put between marks stands
for itself (`Toml.isVerbatim_of_quoted?`). -/
theorem isVerbatim_of_decodeTargets {target : Target} {lines : List Char}
    (hlines : Toml.AreFields target.fields.tail lines)
    (h : decodeTargets (tableWithPath target.path.toList lines) = .ok [target]) :
    ∀ c ∈ target.path.toList, Toml.isVerbatim c = true := by
  have hkeys : ∀ field ∈ target.fields.tail, Toml.IsKey field.1 := fun field hm =>
    isKey_of_mem_fields (List.mem_of_mem_tail hm)
  unfold decodeTargets at h
  split at h
  · next fields hread =>
    obtain ⟨statements, hstatements, hfields⟩ := Option.bind_eq_some_iff.1 hread
    change Toml.statements? (Toml.headerLine "targets" ++ _) = some statements at hstatements
    rw [Toml.statements?_header (isKey_of_mem_names (by simp))] at hstatements
    obtain ⟨below, hbelow, rfl⟩ := Option.map_eq_some_iff.1 hstatements
    -- the first statement below the header is the assignment of the path
    obtain ⟨first, last, more, hfirst, rfl⟩ := Toml.exists_of_statements? (by decide) hbelow
    obtain ⟨⟨statement, rest⟩, hstatement, hline⟩ := Option.bind_eq_some_iff.1 hfirst
    obtain ⟨_, -, hline⟩ := Option.bind_eq_some_iff.1 hline
    obtain ⟨rfl, rfl⟩ := Prod.mk.inj (Option.some.inj hline)
    change Toml.statement? ("path".toList ++ ' ' :: '=' :: ' ' :: Toml.quotationMark :: _) =
      some (statement, rest) at hstatement
    rw [Toml.statement?_append (isKey_of_mem_names (by simp))] at hstatement
    obtain ⟨⟨v, after⟩, hvalue, hassigns⟩ := Option.map_eq_some_iff.1 hstatement
    obtain ⟨rfl, rfl⟩ := Prod.mk.inj hassigns
    obtain ⟨text, hquoted, rfl⟩ := Toml.exists_of_simple? hvalue
    -- it is the path of the target, so the characters between the marks are what was read
    have hsame : target.path = String.ofList text :=
      path_of_holdsFirst (Toml.holdsFirst_of_assemble hfields) h
    rw [hsame, String.toList_ofList] at hquoted ⊢
    exact Toml.isVerbatim_of_quoted? (Toml.not_triple_infix_of_areFields hlines hkeys) hquoted
  · simp at h

end Back

/-! ### References between marks -/

/-- **A value that is referred to between the marks of a path is the path of the target** exactly if all
of its characters stand for themselves there: a quotation mark, a backslash and a control character other
than a tab do not.

**Proof sketch.** The document is read with the value between the marks (`substitute_tableWithPath`). If
it stands for itself, the table is one of the target (`decodeTargets_tables`). The converse is
`isVerbatim_of_decodeTargets`. -/
theorem targetsOfText_reference_iff {environment : Environment} {name lines : List Char}
    {target : Target} (hname : name ≠ []) (hclosed : '\x7d' ∉ name)
    (hset : environment.get? (String.ofList name) = some target.path) (htarget : target.IsAcceptable)
    (hlines : Toml.AreFields target.fields.tail lines) (hleaves : environment.LeavesAlone lines) :
    targetsOfText environment (String.ofList (tableWithPath (Environment.reference name) lines)) =
        .ok [target] ↔
      ∀ c ∈ target.path.toList, Toml.isVerbatim c = true := by
  have hcheck : checkTargets [target] = .ok () := checkTargets_eq_ok_iff.2 (by simpa using htarget)
  rw [targetsOfText, String.toList_ofList, substitute_tableWithPath hname hclosed hset hleaves]
  constructor
  · intro h
    split at h
    · simp at h
    · next targets hdecode =>
      split at h
      · simp at h
      · obtain rfl := Except.ok.inj h
        exact isVerbatim_of_decodeTargets hlines hdecode
  · intro h
    have htables : AreTables [target] (tableWithPath target.path.toList lines ++ []) :=
      .cons (isTable_tableWithPath hlines h) .nil
    rw [List.append_nil] at htables
    rw [decodeTargets_tables (by simp) htables]
    simp only [hcheck]

/-- A value with a reference to its own name, which is not looked at again. -/
theorem targetsOfText_reference_release :
    let target : Target := ⟨"out/${V} é\t{x}", "#define V ", .quoted, some ";"⟩
    let environment := Environment.ofPairs [("V", "out/${V} é\t{x}")]
    let lines := "prefix = \"#define V \"\nstyle = \"quoted\"\nterminator = \";\"\n".toList
    environment.get? "V" = some target.path ∧ target.IsAcceptable ∧ environment.LeavesAlone lines ∧
      targetsOfText environment (String.ofList (tableWithPath "${V}".toList lines)) = .ok [target] := by
  intro target environment lines
  have hset : environment.get? (String.ofList ['V']) = some target.path := by decide
  have htarget : target.IsAcceptable := Target.check_eq_ok_iff.1 (by decide : target.check 0 = .ok ())
  have hleaves : environment.LeavesAlone lines := by
    unfold Environment.LeavesAlone
    decide +kernel
  have hprint : lines = target.fields.tail.flatMap fun field => Toml.printField field.1 field.2 := by
    decide
  have hlines : Toml.AreFields target.fields.tail lines := hprint ▸ areFields_printField _
  have hreference : "${V}".toList = Environment.reference ['V'] := by decide
  have hverbatim : ∀ c ∈ target.path.toList, Toml.isVerbatim c = true :=
    List.all_eq_true.1 (by decide)
  refine ⟨hset, htarget, hleaves, ?_⟩
  rw [hreference]
  exact (targetsOfText_reference_iff (by decide) (by decide) hset htarget hlines hleaves).2 hverbatim

/-- A value with a backslash comes out as another one: the letter behind it makes it a line feed. -/
theorem not_targetsOfText_reference :
    let environment := Environment.ofPairs [("V", "C:\\new")]
    let document := "[[targets]]\npath = \"${V}\"\nprefix = \"p\"\nstyle = \"bare\"\n"
    environment.get? "V" = some "C:\\new" ∧
      targetsOfText environment document = .ok [⟨"C:\new", "p", .bare, none⟩] ∧
      targetsOfText environment document ≠ .ok [⟨"C:\\new", "p", .bare, none⟩] := by
  decide +kernel

end Workbench
