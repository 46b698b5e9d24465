set_option autoImplicit false

/-!
# Fields

Cutting a text at its separators. The fields are everything between two separators, so a text with
`n` separators has `n + 1` fields, empty ones included.

## Main definitions

* `Workbench.Text.fields` — the fields of a text.

## Main results

* `Workbench.Text.fields_ne_nil` — there is always a field.
* `Workbench.Text.eq_or_exists_of_fields_eq_cons`, `Workbench.Text.fields_append_cons` — the first field
  ends at the first separator.
* `Workbench.Text.mem_of_mem_intercalate` — what stands in a text that is put together from fields.
-/

namespace Workbench.Text

/-- The parts of a text between the characters that separate. -/
def fields (separates : Char → Bool) : List Char → List (List Char)
  | [] => [[]]
  | c :: cs =>
    if separates c then [] :: fields separates cs
    else
      match fields separates cs with
      | [] => [[c]]
      | first :: others => (c :: first) :: others

/-- There is always a field. -/
theorem fields_ne_nil (separates : Char → Bool) (cs : List Char) : fields separates cs ≠ [] := by
  cases cs with
  | nil => simp [fields]
  | cons c cs =>
    by_cases hc : separates c = true
    · simp [fields, hc]
    · cases hf : fields separates cs <;> simp [fields, hc, hf]

/-- The first field is the whole text, or it ends at a separator, behind which the others are. -/
theorem eq_or_exists_of_fields_eq_cons {separates : Char → Bool} {cs first : List Char}
    {others : List (List Char)} (h : fields separates cs = first :: others) :
    (cs = first ∧ others = []) ∨
      ∃ sep rest, cs = first ++ sep :: rest ∧ separates sep = true ∧ fields separates rest = others := by
  induction cs generalizing first with
  | nil =>
    obtain ⟨rfl, rfl⟩ := List.cons.inj h
    exact .inl ⟨rfl, rfl⟩
  | cons c cs ih =>
    rw [fields] at h
    split at h
    · next hc =>
      obtain ⟨rfl, rfl⟩ := List.cons.inj h
      exact .inr ⟨c, cs, rfl, hc, rfl⟩
    · split at h
      · next hnil => exact absurd hnil (fields_ne_nil separates cs)
      · next front behind hfields =>
        obtain ⟨rfl, rfl⟩ := List.cons.inj h
        rcases ih hfields with ⟨rfl, hothers⟩ | ⟨sep, rest, rfl, hsep, hrest⟩
        · exact .inl ⟨rfl, hothers⟩
        · exact .inr ⟨sep, rest, rfl, hsep, hrest⟩

/-- The first field ends at the first separator. -/
theorem fields_append_cons {separates : Char → Bool} {a : List Char} {sep : Char}
    (ha : ∀ c ∈ a, separates c = false) (hsep : separates sep = true) (b : List Char) :
    fields separates (a ++ sep :: b) = a :: fields separates b := by
  induction a with
  | nil => simp [fields, hsep]
  | cons c a ih =>
    obtain ⟨hc, ha⟩ := List.forall_mem_cons.1 ha
    simp [fields, hc, ih ha]

/-- The first field ends at the first separator, if a single character separates. -/
theorem fields_append_cons_of_notMem {sep : Char} {a : List Char} (ha : sep ∉ a) (b : List Char) :
    fields (· == sep) (a ++ sep :: b) = a :: fields (· == sep) b := by
  have hfield : ∀ c ∈ a, (c == sep) = false := by
    intro c hc
    rw [beq_eq_false_iff_ne]
    rintro rfl
    exact ha hc
  exact fields_append_cons hfield (beq_self_eq_true sep) b

/-- What stands in a text that is put together from fields is in one of them, or separates them. -/
theorem mem_of_mem_intercalate {sep : List Char} {c : Char} {parts : List (List Char)}
    (h : c ∈ sep.intercalate parts) : c ∈ sep ∨ ∃ part ∈ parts, c ∈ part := by
  induction parts with
  | nil => simp at h
  | cons part parts ih =>
    cases parts with
    | nil => exact .inr ⟨part, List.mem_cons_self, by simpa using h⟩
    | cons next parts =>
      rw [List.intercalate_cons_cons, List.mem_append, List.mem_append] at h
      rcases h with (h | h) | h
      · exact .inr ⟨part, List.mem_cons_self, h⟩
      · exact .inl h
      · obtain hsep | ⟨other, hother, hc⟩ := ih h
        · exact .inl hsep
        · exact .inr ⟨other, List.mem_cons_of_mem part hother, hc⟩

end Workbench.Text
