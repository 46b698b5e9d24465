import Workbench.Proofs.Checks
import Workbench.Proofs.Environment.References
import Workbench.Proofs.Toml.Statements
import Workbench.Proofs.Toml.Tables
import Workbench.Version.Document

set_option relaxedAutoImplicit false
set_option autoImplicit false

/-!
# Documents of targets, written and read

A list of targets can be written as a document with one table for each of them. However its texts are
written, the document is read as the targets that it was written for, as long as the environment has
nothing to put into it.

## Main definitions

* `Workbench.Target.fields` — the texts of a target, with their keys.
* `Workbench.Target.IsTable`, `Workbench.AreTables` — the tables of a target and of several targets.
* `Workbench.Environment.LeavesAlone` — environments that put nothing into a text.

## Main results

* `Workbench.statements?_tables` — the statements of a document.
* `Workbench.decodeTargets_tables` — a document names the targets that it was written for.
* `Workbench.areTables_printTargets` — what is printed is such a document.
* `Workbench.printTargets_reads_back` — a list of targets that is accepted is read back from each of its
  documents.
-/

namespace Workbench

open Toml (Value Fields Statement Header)

/-! ### Documents -/

/-- The texts of a target with their keys, in the order of a table. A tail that is absent is left
out. -/
def Target.fields (target : Target) : List (String × String) :=
  [("path", target.path), ("prefix", target.lead), ("style", target.style.name)]
    ++ target.tail.toList.map fun tail => ("terminator", tail)

/-- The tables of a target: a header, and a line for each of its texts. -/
def Target.IsTable (target : Target) (cs : List Char) : Prop :=
  ∃ lines, Toml.AreFields target.fields lines ∧ cs = Toml.headerLine "targets" ++ lines

/-- The documents of a list of targets: a table for each of them, in order. -/
inductive AreTables : List Target → List Char → Prop where
  | nil : AreTables [] []
  | cons {target : Target} {targets : List Target} {table rest : List Char}
    (htable : target.IsTable table) (hrest : AreTables targets rest) :
    AreTables (target :: targets) (table ++ rest)

/-- An environment puts nothing into a text: no name that the text refers to has a value. -/
def Environment.LeavesAlone (environment : Environment) (cs : List Char) : Prop :=
  ∀ name ∈ Environment.references cs, environment.get? (String.ofList name) = none

/-! ### Statements -/

/-- The keys of documents are plain words. -/
lemma isKey_of_mem_names {key : String}
    (h : key ∈ ["targets", "path", "prefix", "style", "terminator"]) : Toml.IsKey key := by
  simp only [List.mem_cons, List.not_mem_nil, or_false] at h
  rcases h with rfl | rfl | rfl | rfl | rfl <;> exact ⟨by decide, List.all_eq_true.1 (by decide)⟩

/-- The keys of targets, in order. -/
lemma map_fst_fields (target : Target) :
    target.fields.map Prod.fst = ["path", "prefix", "style"] ∨
      target.fields.map Prod.fst = ["path", "prefix", "style", "terminator"] := by
  unfold Target.fields
  cases target.tail with
  | none => exact .inl rfl
  | some tail => exact .inr rfl

/-- The keys of targets are plain words. -/
lemma isKey_of_mem_fields {target : Target} {field : String × String} (h : field ∈ target.fields) :
    Toml.IsKey field.1 := by
  have hkey : field.1 ∈ target.fields.map Prod.fst := List.mem_map_of_mem h
  refine isKey_of_mem_names ?_
  rcases map_fst_fields target with hkeys | hkeys <;> rw [hkeys] at hkey
  · exact List.mem_cons_of_mem _ (List.mem_of_mem_take (i := 3) hkey)
  · exact List.mem_cons_of_mem _ hkey

/-- The statements of the table of a target. -/
def Target.statements (target : Target) : List Statement :=
  .opens (.repeated ["targets"])
    :: target.fields.map fun field => .assigns [field.1] (.text field.2)

/-- **The statements of a document** are those of its tables.

**Proof sketch.** Induction on the tables: the header is read, and then the lines of its texts. -/
theorem statements?_tables {targets : List Target} {cs : List Char} (h : AreTables targets cs) :
    Toml.statements? cs = some (targets.flatMap Target.statements) := by
  induction h with
  | nil =>
    rw [Toml.statements?]
    rfl
  | cons htable hrest ih =>
    obtain ⟨lines, hlines, rfl⟩ := htable
    rw [List.append_assoc, Toml.statements?_header (isKey_of_mem_names (by simp)),
      Toml.statements?_fields hlines (fun _ => isKey_of_mem_fields), ih]
    rfl

/-! ### Tables -/

/-- The table of a target. -/
def Target.row (target : Target) : Fields := target.fields.map fun field => (field.1, .text field.2)

/-- The texts of a target make up its table. -/
lemma assignAll_fields (target : Target) :
    Fields.assignAll (target.fields.map fun field => ([field.1], .text field.2)) [] =
      some target.row := by
  have hkeys : Fields.AreInOrder (([] ++ target.row).map Prod.fst) := by
    have hmap : target.row.map Prod.fst = target.fields.map Prod.fst := by simp [Target.row]
    unfold Fields.AreInOrder
    rcases map_fst_fields target with h | h <;> rw [List.nil_append, hmap, h] <;> decide
  have hrow := Fields.assignAll_of_areInOrder hkeys
  rwa [Target.row, List.map_map] at hrow

/-- The section of a target. -/
def Target.tableSection (target : Target) : Toml.Section :=
  { header := .repeated ["targets"]
    assignments := target.fields.map fun field => ([field.1], .text field.2) }

/-- The sections of a document. -/
lemma sections_statements (targets : List Target) :
    Toml.sections (targets.flatMap Target.statements) = ([], targets.map Target.tableSection) := by
  induction targets with
  | nil => rfl
  | cons target targets ih =>
    rw [List.flatMap_cons, Target.statements, List.cons_append, Toml.sections,
      Toml.sections_fields, ih]
    simp [Target.tableSection]

/-- The section of a target opens a table of its texts below those before it. -/
lemma attach_tableSection (target : Target) (fields : Fields) :
    target.tableSection.attach fields =
      match fields.get? "targets" with
      | none => some (fields.put "targets" (.tables [target.row]))
      | some (.tables rows) => some (fields.put "targets" (.tables (rows ++ [target.row])))
      | some _ => none := by
  change Toml.Section.attachRepeated _ "targets" fields = _
  rw [Toml.Section.attachRepeated, Target.tableSection, assignAll_fields]
  rfl

/-- The sections of further targets add a table for each of them. -/
lemma foldlM_attach (targets : List Target) (rows : List Fields) :
    (targets.map Target.tableSection).foldlM (fun fields part => part.attach fields)
        [("targets", .tables rows)] =
      some [("targets", .tables (rows ++ targets.map Target.row))] := by
  induction targets generalizing rows with
  | nil => simp
  | cons target targets ih =>
    rw [List.map_cons, List.foldlM_cons, attach_tableSection]
    simp [Fields.get?, Fields.put, ih]

/-- **The tables of a document** are those of its targets. -/
lemma assemble_statements {targets : List Target} (hne : targets ≠ []) :
    Toml.assemble (targets.flatMap Target.statements) =
      some [("targets", .tables (targets.map Target.row))] := by
  obtain ⟨target, targets, rfl⟩ := List.exists_cons_of_ne_nil hne
  rw [Toml.assemble, sections_statements]
  simp [Fields.assignAll, attach_tableSection, Fields.get?, Fields.put, foldlM_attach]

/-! ### Targets -/

/-- A target is read back from its table. -/
lemma ofFields_row (target : Target) : Target.ofFields target.row = .ok target := by
  obtain ⟨path, lead, style, tail⟩ := target
  cases style <;> cases tail <;> rfl

/-- **A document names the targets that it was written for.**

**Proof sketch.** Its statements (`statements?_tables`) make up a table for each of them
(`assemble_statements`), from which the target is read back (`ofFields_row`). -/
theorem decodeTargets_tables {targets : List Target} {cs : List Char} (hne : targets ≠ [])
    (h : AreTables targets cs) : decodeTargets cs = .ok targets := by
  have hmark : Toml.skipOrderMark cs = cs := by
    cases h with
    | nil => rfl
    | cons htable hrest =>
      obtain ⟨lines, -, rfl⟩ := htable
      rfl
  have hfields : Toml.read? cs = some [("targets", .tables (targets.map Target.row))] := by
    rw [Toml.read?, hmark, statements?_tables h]
    exact assemble_statements hne
  have hrows : (targets.map Target.row).mapM Target.ofFields = .ok targets := by
    clear h hmark hfields hne
    induction targets with
    | nil => rfl
    | cons target targets ih =>
      rw [List.map_cons, List.mapM_cons, ofFields_row, ih]
      rfl
  rw [decodeTargets, hfields]
  simp only [targetsOfFields, targetsOfFieldsFrom, if_true, targetsOfValue, hrows]
  rfl

/-! ### Printing -/

/-- A line that is printed gives its text to its key. -/
lemma isField_printField (key s : String) : Toml.IsField key s (Toml.printField key s) :=
  ⟨s.toList.flatMap Toml.escaped, Toml.spellsAll_escaped _, by
    simp [Toml.printField, Toml.printText, Toml.quotationMark]⟩

/-- Lines that are printed give their texts to their keys. -/
lemma areFields_printField (fields : List (String × String)) :
    Toml.AreFields fields (fields.flatMap fun field => Toml.printField field.1 field.2) := by
  induction fields with
  | nil => exact .nil
  | cons field fields ih => exact .cons (isField_printField _ _) ih

/-- What is printed for a target is a table of it. -/
lemma isTable_print (target : Target) : target.IsTable target.print := by
  have hprint : target.print = Toml.headerLine "targets" ++
      target.fields.flatMap fun field => Toml.printField field.1 field.2 := by
    have hheader : "[[targets]]\n".toList = Toml.headerLine "targets" := by decide
    unfold Target.print
    rw [hheader]
    cases htail : target.tail <;> simp [Target.fields, htail]
  exact ⟨_, areFields_printField target.fields, hprint⟩

/-- **What is printed for a list of targets is a document of it.** -/
theorem areTables_printTargets (targets : List Target) :
    AreTables targets (printTargets targets).toList := by
  rw [printTargets, String.toList_ofList]
  induction targets with
  | nil => exact .nil
  | cons target targets ih => exact .cons (isTable_print target) ih

/-! ### Reading back -/

/-- **A list of targets that is accepted is read back from each of its documents**, in every environment
that puts nothing into the document. What is printed is one of them.

**Proof sketch.** The environment leaves the document as it is (`Environment.substitute_of_unset`), and
the targets that it names (`decodeTargets_tables`) pass their check. -/
theorem printTargets_reads_back {targets : List Target} (hcheck : checkTargets targets = .ok ()) :
    AreTables targets (printTargets targets).toList ∧
      ∀ (environment : Environment) (document : String), AreTables targets document.toList →
        environment.LeavesAlone document.toList → targetsOfText environment document = .ok targets := by
  refine ⟨areTables_printTargets targets, fun environment document hdocument hleaves => ?_⟩
  have hne : targets ≠ [] := (checkTargets_eq_ok_iff.1 hcheck).1
  rw [targetsOfText, Environment.substitute_of_unset hleaves, decodeTargets_tables hne hdocument]
  simp only [hcheck]

/-- Two targets with characters that are escaped and with a reference, in an environment where another
name has a value. -/
theorem printTargets_reads_back_escapes :
    let targets : List Target :=
      [ ⟨"C:\\a \"b\"\r${X}", "é\tü=", .quoted, some "\n\x00\x7d"⟩,
        ⟨"$\x7b", "y", .bare, none⟩ ]
    let environment := Environment.ofPairs [("Y", "1")]
    checkTargets targets = .ok () ∧
      Environment.references (printTargets targets).toList = ["X".toList] ∧
      targetsOfText environment (printTargets targets) = .ok targets := by
  intro targets environment
  have hcheck : checkTargets targets = .ok () := by decide +kernel
  have hnames : Environment.references (printTargets targets).toList = ["X".toList] := by
    decide +kernel
  have hleaves : environment.LeavesAlone (printTargets targets).toList := by
    unfold Environment.LeavesAlone
    rw [hnames]
    decide
  obtain ⟨hdocument, hback⟩ := printTargets_reads_back hcheck
  exact ⟨hcheck, hnames, hback environment _ hdocument hleaves⟩

end Workbench
