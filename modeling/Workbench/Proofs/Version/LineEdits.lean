import Workbench.Proofs.Version.Rewriting

set_option relaxedAutoImplicit false
set_option autoImplicit false

/-!
# When a patch edits one line

A patch is meant to change the content of one line: the first one that starts with the lead. Said
place by place, the number of lines stays, all other lines stay with their endings, and the line that
was found keeps its ending and has the target's line as its content when the patched text is cut into
lines again.

The checks of targets and versions keep line breaks out of the lead and the version, but nothing is
asked of the tail. So a patch edits one line exactly if the tail of its target does not break the line
that was found.

## Main definitions

* `Workbench.EditsFirst` — the edit of one line, place by place.

## Main results

* `Workbench.editsFirst_iff` — such an edit is a rewriting of the first line.
* `Workbench.patch_editsFirst_iff` — when the patches of accepted targets edit one line.
* `Workbench.builtin_patch_editsFirst` — the built-in targets have such patches.
* `Workbench.not_patch_editsFirst` — an accepted target with a patch that adds a line.
-/

namespace Workbench

open Text (Line Ending lines)

/-- `after` is `before` with another content on the first line that starts with `lead`. -/
structure EditsFirst (lead content : List Char) (before after : List Line) : Prop where
  /-- No line is added or lost. -/
  length_eq : after.length = before.length
  /-- All other lines are the same, endings included. -/
  others : ∀ i, i ≠ before.findIdx (Line.startsWith lead) → after[i]? = before[i]?
  /-- The line that is found keeps its ending. -/
  first : ∀ line, before[before.findIdx (Line.startsWith lead)]? = some line →
    after[before.findIdx (Line.startsWith lead)]? = some { line with content }

section EditsFirst

variable {lead content : List Char}

/-- Rewriting adds no line and loses none. -/
lemma length_rewriteFirst (ls : List Line) :
    (rewriteFirst lead content ls).length = ls.length := by
  induction ls with
  | nil => rfl
  | cons line rest ih =>
    by_cases h : line.startsWith lead = true
    · simp [rewriteFirst, h]
    · simp [rewriteFirst, h, ih]

/-- The lines after a rewriting, place by place. -/
lemma getElem?_rewriteFirst (ls : List Line) (i : Nat) :
    (rewriteFirst lead content ls)[i]? =
      if i = ls.findIdx (Line.startsWith lead) then ls[i]?.map fun line => { line with content }
      else ls[i]? := by
  induction ls generalizing i with
  | nil => simp [rewriteFirst]
  | cons line rest ih =>
    by_cases h : line.startsWith lead = true
    · rw [rewriteFirst, if_pos h, List.findIdx_cons, h]
      cases i with
      | zero => simp
      | succ i => simp
    · rw [rewriteFirst, if_neg h, List.findIdx_cons, Bool.eq_false_iff.2 h]
      cases i with
      | zero => simp
      | succ i => simp [ih]

/-- Editing the first line that starts with a lead is rewriting it. -/
theorem editsFirst_iff {before after : List Line} :
    EditsFirst lead content before after ↔ after = rewriteFirst lead content before := by
  constructor
  · intro h
    refine List.ext_getElem? fun i => ?_
    rw [getElem?_rewriteFirst]
    by_cases hi : i = before.findIdx (Line.startsWith lead)
    · rw [if_pos hi]
      cases hl : before[i]? with
      | none =>
        have hlen : after.length ≤ i := by
          rw [h.length_eq]
          exact List.getElem?_eq_none_iff.1 hl
        simpa using hlen
      | some line =>
        subst hi
        exact h.first line hl
    · rw [if_neg hi]
      exact h.others i hi
  · rintro rfl
    refine ⟨length_rewriteFirst before, fun i hi => ?_, fun line hl => ?_⟩
    · rw [getElem?_rewriteFirst, if_neg hi]
    · rw [getElem?_rewriteFirst, if_pos rfl, hl]
      rfl

end EditsFirst

/-! ### Patches of accepted targets -/

/-- The patch of a text edits the first line that starts with the target's lead. -/
def Target.EditsOneLine (target : Target) (version text : String) : Prop :=
  EditsFirst target.lead.toList (target.line version).toList (lines text.toList)
    (lines (target.patch version text).1.toList)

/-- A patch edits one line exactly if the tail does not break the line that was found. -/
lemma Target.editsOneLine_iff {target : Target} {field version : String}
    (hv : Check.version field version = .ok ()) (text : String) :
    target.EditsOneLine version text ↔
      ∀ line, target.found? text = some line → ¬ target.breaks line := by
  unfold EditsOneLine
  rw [editsFirst_iff]
  refine target.lines_patch_iff.trans (forall₂_congr fun line hl => ?_)
  exact target.isProper_iff hv (isProper_of_find? (Text.areLines_lines _) hl) (List.find?_some hl)

/-- A lead without a line feed finds a line that ends with a line feed in some text. -/
lemma Target.exists_found? {target : Target} (h : '\n' ∉ target.lead.toList) :
    ∃ text line, target.found? text = some line ∧ line.ending = .lineFeed := by
  -- a further character keeps a carriage return at the end of the lead out of the ending
  let line : Line := ⟨target.lead.toList ++ ['x'], .lineFeed⟩
  have hproper : line.IsProper := ⟨by simp [line, h], by simp [line], by simp [line]⟩
  have hlines : lines (Text.unlines [line]) = [line] :=
    Text.lines_unlines ⟨hproper, by simp, trivial⟩
  refine ⟨String.ofList (Text.unlines [line]), line, ?_, rfl⟩
  rw [found?, String.toList_ofList, hlines]
  exact List.find?_cons_of_pos (startsWith_iff.2 (List.prefix_append _ _))

/-- An accepted lead finds a line that ends with a line feed in some text. -/
lemma Target.IsAcceptable.exists_found? {target : Target} (h : target.IsAcceptable) :
    ∃ text line, target.found? text = some line ∧ line.ending = .lineFeed :=
  Target.exists_found? h.lead_noLineFeed

/-- **When patches edit one line.** For every accepted list of targets and every accepted version, a
patch edits one line exactly if there is no line to edit or the tail neither holds a line feed nor ends
with a carriage return that would join the line feed after it. All patches of the list do so exactly
if no tail holds a line feed or ends with a carriage return.

**Proof sketch.** The first part is `Target.editsOneLine_iff`. For the second part, each accepted lead
finds a line that ends with a line feed in some text (`Target.IsAcceptable.exists_found?`), and there
a tail of the excluded kind breaks the line. -/
theorem patch_editsFirst_iff {targets : List Target} (h : checkTargets targets = .ok ()) :
    (∀ target ∈ targets, ∀ version, Check.version "version" version = .ok () → ∀ text,
      (target.EditsOneLine version text ↔
        ∀ line, target.found? text = some line → ¬ target.breaks line)) ∧
    ((∀ target ∈ targets, ∀ version, Check.version "version" version = .ok () → ∀ text,
        target.EditsOneLine version text) ↔
      ∀ target ∈ targets, '\n' ∉ target.tailChars ∧ target.tailChars.getLast? ≠ some '\r') := by
  refine ⟨fun target _ version hv text => Target.editsOneLine_iff hv text, fun hall => ?_, ?_⟩
  · intro target hm
    obtain ⟨text, line, hl, he⟩ := ((checkTargets_eq_ok_iff.1 h).2 target hm).exists_found?
    have hv : Check.version "version" "1" = .ok () := rfl
    have hb := (Target.editsOneLine_iff hv text).1 (hall target hm "1" hv text) line hl
    exact ⟨fun hf => hb (.inl hf), fun hr => hb (.inr ⟨hr, he⟩)⟩
  · intro htails target hm version hv text
    refine (Target.editsOneLine_iff hv text).2 fun line _ => ?_
    rintro (hf | ⟨hr, -⟩)
    · exact (htails target hm).1 hf
    · exact (htails target hm).2 hr

/-- The built-in targets are accepted, and all their patches edit one line. -/
theorem builtin_patch_editsFirst :
    checkTargets Target.builtin = .ok () ∧
      ∀ target ∈ Target.builtin, ∀ version, Check.version "version" version = .ok () → ∀ text,
        target.EditsOneLine version text := by
  have h : checkTargets Target.builtin = .ok () := rfl
  exact ⟨h, (patch_editsFirst_iff h).2.2 (by decide)⟩

/-- The target `v=` with a line feed as its tail is accepted, and its patch adds a line. -/
theorem not_patch_editsFirst :
    checkTargets [⟨"f", "v=", .bare, some "\n"⟩] = .ok () ∧
      Check.version "version" "2" = .ok () ∧
      ¬ Target.EditsOneLine ⟨"f", "v=", .bare, some "\n"⟩ "2" "v=1\nend\n" := by
  refine ⟨rfl, rfl, fun h => ?_⟩
  exact absurd h.length_eq (by decide)

end Workbench
