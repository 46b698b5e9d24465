import Mathlib.Tactic.Lemma
import Workbench.Toml.Table

set_option relaxedAutoImplicit false
set_option autoImplicit false

/-!
# What was written stays

A document is assembled piece by piece, and no piece changes a text that an earlier piece has assigned.
So the first text that stands below the first header of a repeated table is in that table when the
document is complete, whatever stands behind it.

## Main definitions

* `Workbench.Toml.Fields.AreInOrder` — keys in the order of a table.
* `Workbench.Toml.Fields.Holds` — a key has values, all of one kind.
* `Workbench.Toml.Fields.HoldsText` — a key has a text.
* `Workbench.Toml.Fields.HoldsFirst` — the first of the tables of a key has a text.

## Main results

* `Workbench.Toml.Fields.assignAll_of_areInOrder` — what assignments make up.
* `Workbench.Toml.Fields.HoldsText.assignAll` — assignments leave a text.
* `Workbench.Toml.Fields.HoldsFirst.attach` — a section leaves a text of the first table.
* `Workbench.Toml.holdsFirst_of_assemble` — the first text of a document that starts with a header of a
  repeated table.
-/

namespace Workbench.Toml

namespace Fields

/-- A key has values, and all of them are of one kind. -/
structure Holds (key : String) (kind : Value → Prop) (fields : Fields) : Prop where
  exists_mem : ∃ v, (key, v) ∈ fields
  kind_of_mem : ∀ v, (key, v) ∈ fields → kind v

/-- A key has a text. -/
def HoldsText (key s : String) (fields : Fields) : Prop := fields.Holds key fun v => v = .text s

/-- A key has tables, and in the first of them a key has a text. -/
def HoldsFirst (name key s : String) (fields : Fields) : Prop :=
  fields.Holds name fun v => ∃ row rows, v = .tables (row :: rows) ∧ HoldsText key s row

/-! ### Putting a value -/

section Put

variable {key k : String} {kind : Value → Prop} {v value : Value} {fields : Fields}

/-- What is found under a key is one of its values. -/
lemma mem_of_get? (h : fields.get? key = some v) : (key, v) ∈ fields := by
  obtain ⟨front, back, rfl, -⟩ := List.lookup_eq_some_iff.1 h
  simp

/-- Something is found under a key that has values. -/
lemma exists_get?_of_mem (h : (key, v) ∈ fields) : ∃ w, fields.get? key = some w := by
  cases hget : fields.get? key with
  | some w => exact ⟨w, rfl⟩
  | none => exact absurd (List.lookup_eq_none_iff.1 hget _ h) (by simp)

/-- A value that was put is the new one, or was there before. -/
lemma eq_or_mem_of_mem_put (h : (key, v) ∈ fields.put k value) :
    key = k ∧ v = value ∨ (key, v) ∈ fields := by
  induction fields with
  | nil => exact .inl (by simpa [put] using h)
  | cons field fields ih =>
    obtain ⟨k', v'⟩ := field
    unfold put at h
    split at h
    · rcases List.mem_cons.1 h with heq | hmem
      · exact .inl (Prod.mk.inj heq)
      · exact .inr (List.mem_cons_of_mem _ hmem)
    split at h
    · rcases List.mem_cons.1 h with heq | hmem
      · exact .inl (Prod.mk.inj heq)
      · exact .inr hmem
    · rcases List.mem_cons.1 h with heq | hmem
      · exact .inr (heq ▸ List.mem_cons_self)
      · exact (ih hmem).imp_right (List.mem_cons_of_mem _)

/-- A key that has values still has some after one was put. -/
lemma exists_mem_put (h : (key, v) ∈ fields) : ∃ w, (key, w) ∈ fields.put k value := by
  induction fields with
  | nil => simp at h
  | cons field fields ih =>
    obtain ⟨k', v'⟩ := field
    unfold put
    rcases List.mem_cons.1 h with heq | hmem
    · obtain ⟨rfl, rfl⟩ := Prod.mk.inj heq
      split
      · next he => exact ⟨value, he ▸ List.mem_cons_self⟩
      split
      · exact ⟨v, by simp⟩
      · exact ⟨v, by simp⟩
    · split
      · exact ⟨v, List.mem_cons_of_mem _ hmem⟩
      split
      · exact ⟨v, List.mem_cons_of_mem _ (List.mem_cons_of_mem _ hmem)⟩
      · obtain ⟨w, hw⟩ := ih hmem
        exact ⟨w, List.mem_cons_of_mem _ hw⟩

/-- A value whose key comes behind the others is put behind them. -/
lemma put_eq_append (h : ∀ field ∈ fields, field.1 ≠ k ∧ ¬ k < field.1) :
    fields.put k value = fields ++ [(k, value)] := by
  induction fields with
  | nil => rfl
  | cons field fields ih =>
    obtain ⟨⟨hne, hlt⟩, hrest⟩ := List.forall_mem_cons.1 h
    rw [put, if_neg hne, if_neg hlt, ih hrest, List.cons_append]

/-- **A value that takes the place of another one** keeps the kind of a key, if it is of that kind
whenever the other one is. -/
lemma Holds.put {found : Option Value} (h : fields.Holds key kind) (hget : fields.get? k = found)
    (hfound : ∀ w, found = some w → kind w → kind value) : (fields.put k value).Holds key kind := by
  obtain ⟨⟨v, hv⟩, hall⟩ := h
  refine ⟨exists_mem_put hv, fun w hw => ?_⟩
  rcases eq_or_mem_of_mem_put hw with ⟨rfl, rfl⟩ | hmem
  · obtain ⟨u, hu⟩ := exists_get?_of_mem hv
    exact hfound u (hget.symm.trans hu) (hall u (mem_of_get? hu))
  · exact hall w hmem

end Put

/-! ### Keys in order -/

/-- The keys of a table stand in order, without repetition. -/
def AreInOrder (keys : List String) : Prop := keys.Pairwise fun a b => a ≠ b ∧ ¬ b < a

/-- **Assignments to keys in order** are the fields of the table that they make up. -/
theorem assignAll_of_areInOrder {front fields : Fields}
    (h : AreInOrder ((front ++ fields).map Prod.fst)) :
    front.assignAll (fields.map fun field => ([field.1], field.2)) = some (front ++ fields) := by
  induction fields generalizing front with
  | nil => simp [assignAll]
  | cons field fields ih =>
    obtain ⟨key, v⟩ := field
    have hkey : ∀ field ∈ front, field.1 ≠ key ∧ ¬ key < field.1 := fun field hm => by
      rw [AreInOrder, List.map_append, List.pairwise_append] at h
      exact h.2.2 field.1 (List.mem_map_of_mem hm) key (by simp)
    have hnone : front.get? key = none :=
      List.lookup_eq_none_iff.2 fun field hm => by simpa using (hkey field hm).1.symm
    have hassign : front.assign true [key] v = some (front ++ [(key, v)]) := by
      rw [assign, if_pos rfl, insertNew, hnone, put_eq_append hkey]
      rfl
    have hrest : AreInOrder ((front ++ [(key, v)] ++ fields).map Prod.fst) := by simpa using h
    rw [assignAll, List.map_cons, List.foldlM_cons]
    change ((front.assign true [key] v).bind (Fields.assignAll _)) = _
    rw [hassign]
    exact (ih hrest).trans (by simp)

/-! ### Texts -/

section Texts

variable {key s : String} {fields after : Fields}

/-- An assignment leaves a text. -/
lemma HoldsText.assign {takes : Bool} {path : List String} {value : Value}
    (h : fields.HoldsText key s) (ha : fields.assign takes path value = some after) :
    after.HoldsText key s := by
  unfold Fields.assign at ha
  split at ha
  · simp at ha
  · next k =>
    split at ha
    · unfold insertNew at ha
      split at ha
      · simp at ha
      · next hnone =>
        obtain rfl := Option.some.inj ha
        exact h.put (Option.not_isSome_iff_eq_none.1 hnone) (by simp)
    · simp at ha
  · next k path _ =>
    split at ha
    · next hget =>
      obtain ⟨inner, -, rfl⟩ := Option.map_eq_some_iff.1 ha
      exact h.put hget (by simp)
    · next hget =>
      obtain ⟨inner, -, rfl⟩ := Option.map_eq_some_iff.1 ha
      exact h.put hget (by simp)
    · next hget =>
      obtain ⟨inner, -, rfl⟩ := Option.map_eq_some_iff.1 ha
      exact h.put hget (by simp)
    · next hget =>
      obtain ⟨rows, -, rfl⟩ := Option.map_eq_some_iff.1 ha
      exact h.put hget (by simp)
    · simp at ha

/-- **Assignments leave a text.** -/
theorem HoldsText.assignAll {assignments : List Assignment} (h : fields.HoldsText key s)
    (ha : fields.assignAll assignments = some after) : after.HoldsText key s := by
  induction assignments generalizing fields with
  | nil =>
    obtain rfl : fields = after := Option.some.inj ha
    exact h
  | cons assignment assignments ih =>
    rw [Fields.assignAll, List.foldlM_cons] at ha
    obtain ⟨between, hfirst, hrest⟩ := Option.bind_eq_some_iff.1 ha
    exact ih (h.assign hfirst) hrest

end Texts

/-! ### Sections -/

section Sections

variable {key : String} {kind : Value → Prop} {fields after : Fields}

/-- A header leaves the kind of a key, if what it opens does, and if it is no table of a single name. -/
lemma Holds.changeAt {change : Fields → Option Fields} {path : List String}
    (hchange : ∀ {fields after : Fields}, fields.Holds key kind → change fields = some after →
      after.Holds key kind)
    (htable : ∀ origin inner, ¬ kind (.table origin inner))
    (htables : ∀ {path rows changed}, kind (.tables rows) →
      changeLast (Fields.changeAt change path) rows = some changed → kind (.tables changed))
    (h : fields.Holds key kind) (ha : fields.changeAt change path = some after) :
    after.Holds key kind := by
  unfold Fields.changeAt at ha
  split at ha
  · exact hchange h ha
  split at ha
  · next hget =>
    obtain ⟨inner, -, rfl⟩ := Option.map_eq_some_iff.1 ha
    exact h.put hget (by simp)
  · simp at ha
  · next hget =>
    obtain ⟨inner, -, rfl⟩ := Option.map_eq_some_iff.1 ha
    refine h.put hget fun w hw hk => ?_
    obtain rfl := Option.some.inj hw
    exact absurd hk (htable _ _)
  · next hget =>
    obtain ⟨changed, hchanged, rfl⟩ := Option.map_eq_some_iff.1 ha
    refine h.put hget fun w hw hk => ?_
    obtain rfl := Option.some.inj hw
    exact htables hk hchanged
  · simp at ha

/-- The only table of a name takes the place of no value, or of a table. -/
lemma Holds.attachSingle {assignments : List Assignment} {k : String} (h : fields.Holds key kind)
    (hkind : ∀ origin inner, ¬ kind (.table origin inner))
    (ha : Section.attachSingle assignments k fields = some after) : after.Holds key kind := by
  unfold Section.attachSingle at ha
  split at ha
  · next hget =>
    obtain ⟨inner, -, rfl⟩ := Option.map_eq_some_iff.1 ha
    exact h.put hget (by simp)
  · next hget =>
    obtain ⟨inner, -, rfl⟩ := Option.map_eq_some_iff.1 ha
    refine h.put hget fun w hw hk => ?_
    obtain rfl := Option.some.inj hw
    exact absurd hk (hkind _ _)
  · simp at ha

/-- One more table of a name takes the place of no value, or stands behind other tables. -/
lemma Holds.attachRepeated {assignments : List Assignment} {k : String} (h : fields.Holds key kind)
    (hkind : ∀ rows row, kind (.tables rows) → kind (.tables (rows ++ [row])))
    (ha : Section.attachRepeated assignments k fields = some after) : after.Holds key kind := by
  unfold Section.attachRepeated at ha
  split at ha
  · next hget =>
    obtain ⟨row, -, rfl⟩ := Option.map_eq_some_iff.1 ha
    exact h.put hget (by simp)
  · next hget =>
    obtain ⟨row, -, rfl⟩ := Option.map_eq_some_iff.1 ha
    refine h.put hget fun w hw hk => ?_
    obtain rfl := Option.some.inj hw
    exact hkind _ _ hk
  · simp at ha

end Sections

section First

variable {name key s : String} {fields after : Fields}

/-- A change of the last table of a name leaves a text of the first one, if it leaves texts. -/
lemma exists_of_changeLast {change : Fields → Option Fields} {row : Fields} {rows changed : List Fields}
    (hchange : ∀ {fields after : Fields}, fields.HoldsText key s → change fields = some after →
      after.HoldsText key s)
    (h : HoldsText key s row) (hc : changeLast change (row :: rows) = some changed) :
    ∃ first others, changed = first :: others ∧ HoldsText key s first := by
  simp only [changeLast, Option.bind_eq_bind, Option.bind_eq_some_iff] at hc
  obtain ⟨lastRow, hlast, changedRow, hrow, hc⟩ := hc
  obtain rfl := Option.some.inj hc
  cases rows with
  | nil =>
    obtain rfl : row = lastRow := by simpa using hlast
    exact ⟨changedRow, [], rfl, hchange h hrow⟩
  | cons next rows => exact ⟨row, _, rfl, h⟩

/-- A header leaves a text, if what it opens does. -/
lemma HoldsText.changeAt {change : Fields → Option Fields} {path : List String}
    (hchange : ∀ {fields after : Fields}, fields.HoldsText key s → change fields = some after →
      after.HoldsText key s)
    (h : fields.HoldsText key s) (ha : fields.changeAt change path = some after) :
    after.HoldsText key s :=
  Holds.changeAt hchange (by simp) (by simp) h ha

/-- A header leaves a text of the first table of a name, if what it opens does. -/
lemma HoldsFirst.changeAt {change : Fields → Option Fields} {path : List String}
    (htext : ∀ {fields after : Fields}, fields.HoldsText key s → change fields = some after →
      after.HoldsText key s)
    (hfirst : ∀ {fields after : Fields}, fields.HoldsFirst name key s → change fields = some after →
      after.HoldsFirst name key s)
    (h : fields.HoldsFirst name key s) (ha : fields.changeAt change path = some after) :
    after.HoldsFirst name key s := by
  refine Holds.changeAt hfirst (by simp) ?_ h ha
  rintro path _ changed ⟨row, rows, htables, hrow⟩ hchanged
  obtain rfl := Value.tables.inj htables
  obtain ⟨first, others, rfl, hheld⟩ :=
    exists_of_changeLast (fun hf hc => hf.changeAt htext hc) hrow hchanged
  exact ⟨first, others, rfl, hheld⟩

/-- **A section leaves a text of the first table of a name**, whatever it opens. -/
theorem HoldsFirst.attach {part : Section} (h : fields.HoldsFirst name key s)
    (ha : part.attach fields = some after) : after.HoldsFirst name key s := by
  have hfirst : ∀ rows row, (∃ first others, Value.tables rows = .tables (first :: others) ∧
      HoldsText key s first) → ∃ first others, Value.tables (rows ++ [row]) = .tables (first :: others) ∧
      HoldsText key s first := by
    rintro _ row ⟨first, others, hrows, hheld⟩
    obtain rfl := Value.tables.inj hrows
    exact ⟨first, others ++ [row], rfl, hheld⟩
  unfold Section.attach at ha
  split at ha
  · exact h.changeAt (fun ht hc => ht.attachSingle (by simp) hc)
      (fun hf hc => hf.attachSingle (by simp) hc) ha
  · exact h.changeAt (fun ht hc => ht.attachRepeated (by simp) hc)
      (fun hf hc => hf.attachRepeated hfirst hc) ha

/-- Sections leave a text of the first table of a name. -/
lemma HoldsFirst.attachAll {parts : List Section} (h : fields.HoldsFirst name key s)
    (ha : parts.foldlM (fun fields part => part.attach fields) fields = some after) :
    after.HoldsFirst name key s := by
  induction parts generalizing fields with
  | nil =>
    obtain rfl : fields = after := Option.some.inj ha
    exact h
  | cons part parts ih =>
    rw [List.foldlM_cons] at ha
    obtain ⟨between, hpart, hrest⟩ := Option.bind_eq_some_iff.1 ha
    exact ih (h.attach hpart) hrest

end First

end Fields

/-! ### Documents -/

/-- **The first text of a document** that starts with a header of a repeated table stays in the first of
these tables.

**Proof sketch.** The first section opens the table, and its assignments leave the text
(`Fields.HoldsText.assignAll`), as do the other sections (`Fields.HoldsFirst.attachAll`). -/
theorem holdsFirst_of_assemble {name key s : String} {statements : List Statement} {fields : Fields}
    (h : assemble (.opens (.repeated [name]) :: .assigns [key] (.text s) :: statements) = some fields) :
    fields.HoldsFirst name key s := by
  have hparts : ((⟨.repeated [name], ([key], .text s) :: (sections statements).1⟩ : Section) ::
      (sections statements).2).foldlM (fun fields part => part.attach fields) [] = some fields := h
  rw [List.foldlM_cons] at hparts
  obtain ⟨opened, hopened, hothers⟩ := Option.bind_eq_some_iff.1 hparts
  have hfirst : Fields.HoldsFirst name key s opened := by
    change Section.attachRepeated _ name [] = some opened at hopened
    obtain ⟨row, hrow, rfl⟩ := Option.map_eq_some_iff.1 hopened
    have htext : Fields.HoldsText key s row := by
      rw [Fields.assignAll, List.foldlM_cons] at hrow
      have hheld : Fields.HoldsText key s [(key, .text s)] := ⟨⟨_, List.mem_cons_self⟩, by simp⟩
      exact hheld.assignAll hrow
    exact ⟨⟨_, List.mem_cons_self⟩, by simpa [Fields.put] using htext⟩
  exact hfirst.attachAll hothers

end Workbench.Toml
