import Mathlib.Data.List.Basic
import Workbench.Proofs.Checks
import Workbench.Proofs.Text.Lines
import Workbench.Version.Patch

set_option relaxedAutoImplicit false
set_option autoImplicit false

/-!
# Patching as rewriting a line

A patch acts on the lines of a text: the content of the first line that starts with the lead becomes
the target's line, and everything else stays. This file states what `Target.patch` does in these
words (`Target.patch_eq`), so that nothing after it has to open the definition, and proves how such
rewritings of first lines act on lists of lines: with the same lead the last one counts, and with
leads of which none starts with the other they commute.

## Main definitions

* `Workbench.Text.Line.startsWith` — the lines that a lead finds.
* `Workbench.rewriteFirst` — the rewriting of the first such line.
* `Workbench.Target.outcomeAt` — what is reported for the line that was found.
* `Workbench.Target.breaks` — when a tail takes part in the ending of its line.
* `Workbench.Target.TailIsPlain` — tails without line breaks.

## Main results

* `Workbench.Target.patch_eq` — the text and the outcome of a patch.
* `Workbench.rewriteFirst_rewriteFirst`, `Workbench.rewriteFirst_comm` — the laws of rewriting.
* `Workbench.Target.isProper_iff` — when the rewritten line is read back as it was written.
-/

namespace Workbench

open Text (Line Ending lines unlines AreLines)

/-- Whether a line starts with a lead. -/
def Text.Line.startsWith (lead : List Char) (line : Line) : Bool := lead.isPrefixOf line.content

/-- The lines with another content on the first one that starts with `lead`. -/
def rewriteFirst (lead content : List Char) : List Line → List Line
  | [] => []
  | line :: rest =>
    if line.startsWith lead then { line with content } :: rest
    else line :: rewriteFirst lead content rest

section Rewriting

variable {lead content : List Char}

@[simp] lemma startsWith_iff {line : Line} : line.startsWith lead = true ↔ lead <+: line.content :=
  List.isPrefixOf_iff_prefix

/-- Leads of which none starts with the other do not find the same line. -/
lemma not_startsWith_of_startsWith {other : List Char} {line : Line} (h : ¬ lead <+: other)
    (h' : ¬ other <+: lead) (hl : line.startsWith lead = true) : line.startsWith other = false := by
  rw [Bool.eq_false_iff]
  intro ho
  rcases List.prefix_or_prefix_of_prefix (startsWith_iff.1 hl) (startsWith_iff.1 ho) with hp | hp
  · exact h hp
  · exact h' hp

/-- Replacing the first line answers the content that was there, and rewrites. -/
lemma replaceFirst_eq (ls : List Line) :
    replaceFirst lead content ls =
      (ls.find? (Line.startsWith lead)).map fun line => (line.content, rewriteFirst lead content ls) := by
  induction ls with
  | nil => rfl
  | cons line rest ih =>
    by_cases h : line.startsWith lead = true
    · have h' : lead.isPrefixOf line.content = true := h
      simp [replaceFirst, rewriteFirst, h, h']
    · have h' : lead.isPrefixOf line.content = false := Bool.eq_false_iff.2 h
      rw [replaceFirst, h', if_neg (by simp), ih, List.find?_cons_of_neg h]
      simp [rewriteFirst, h, Option.map_map, Function.comp_def]

/-- Rewriting changes nothing exactly if there is no line to rewrite or it has the content. -/
lemma rewriteFirst_eq_self_iff {ls : List Line} :
    rewriteFirst lead content ls = ls ↔
      ∀ line, ls.find? (Line.startsWith lead) = some line → line.content = content := by
  induction ls with
  | nil => simp [rewriteFirst]
  | cons line rest ih =>
    by_cases h : line.startsWith lead = true
    · rw [rewriteFirst, if_pos h, List.find?_cons_of_pos h]
      simp only [List.cons.injEq, and_true, Option.some.injEq, forall_eq']
      constructor
      · intro he
        rw [← he]
      · intro he
        rw [← he]
    · rw [rewriteFirst, if_neg h, List.find?_cons_of_neg h, ← ih]
      simp

/-- A rewriting that leaves the text leaves the lines. -/
lemma rewriteFirst_eq_self_of_unlines {ls : List Line}
    (h : unlines (rewriteFirst lead content ls) = unlines ls) : rewriteFirst lead content ls = ls := by
  induction ls with
  | nil => rfl
  | cons line rest ih =>
    by_cases hs : line.startsWith lead = true
    · rw [rewriteFirst, if_pos hs] at h ⊢
      have hc : content = line.content := by simpa [unlines, Line.chars] using h
      rw [hc]
    · rw [rewriteFirst, if_neg hs] at h ⊢
      rw [ih (by simpa [unlines] using h)]

/-- After a rewriting the lead finds the line that it found before, with the new content. -/
lemma find?_rewriteFirst (hp : lead <+: content) (ls : List Line) :
    (rewriteFirst lead content ls).find? (Line.startsWith lead) =
      (ls.find? (Line.startsWith lead)).map fun line => { line with content } := by
  induction ls with
  | nil => rfl
  | cons line rest ih =>
    by_cases h : line.startsWith lead = true
    · have hnew : Line.startsWith lead { line with content } = true := startsWith_iff.2 hp
      rw [rewriteFirst, if_pos h, List.find?_cons_of_pos hnew, List.find?_cons_of_pos h]
      rfl
    · rw [rewriteFirst, if_neg h, List.find?_cons_of_neg h, List.find?_cons_of_neg h, ih]

/-- The first line that starts with the lead is rewritten, whatever is around it. -/
lemma rewriteFirst_append_cons {ls rest : List Line} {line : Line}
    (hls : ∀ other ∈ ls, other.startsWith lead = false) (h : line.startsWith lead = true) :
    rewriteFirst lead content (ls ++ line :: rest) = ls ++ { line with content } :: rest := by
  induction ls with
  | nil => rw [List.nil_append, rewriteFirst, if_pos h, List.nil_append]
  | cons first ls ih =>
    obtain ⟨hfirst, hls⟩ := List.forall_mem_cons.1 hls
    rw [List.cons_append, rewriteFirst, hfirst, if_neg (by simp), ih hls, List.cons_append]

/-- Of two rewritings with one lead the last one counts. -/
theorem rewriteFirst_rewriteFirst {before : List Char} (hp : lead <+: before) (ls : List Line) :
    rewriteFirst lead content (rewriteFirst lead before ls) = rewriteFirst lead content ls := by
  induction ls with
  | nil => rfl
  | cons line rest ih =>
    by_cases h : line.startsWith lead = true
    · have hnew : Line.startsWith lead { line with content := before } = true := startsWith_iff.2 hp
      simp [rewriteFirst, h, hnew]
    · simp [rewriteFirst, h, ih]

section Apart

variable {other text : List Char} (hlo : ¬ lead <+: other) (hol : ¬ other <+: lead)

include hlo hol

/-- Rewriting with one lead leaves what a lead apart from it finds. -/
lemma find?_rewriteFirst_of_apart (hp : lead <+: content) (ls : List Line) :
    (rewriteFirst lead content ls).find? (Line.startsWith other) =
      ls.find? (Line.startsWith other) := by
  induction ls with
  | nil => rfl
  | cons line rest ih =>
    by_cases h : line.startsWith lead = true
    · have hold := not_startsWith_of_startsWith hlo hol h
      have hnew : Line.startsWith other { line with content } = false :=
        not_startsWith_of_startsWith hlo hol (startsWith_iff.2 hp)
      rw [rewriteFirst, if_pos h, List.find?_cons_of_neg (by simp [hnew]),
        List.find?_cons_of_neg (by simp [hold])]
    · rw [rewriteFirst, if_neg h]
      by_cases ho : line.startsWith other = true
      · rw [List.find?_cons_of_pos ho, List.find?_cons_of_pos ho]
      · rw [List.find?_cons_of_neg ho, List.find?_cons_of_neg ho, ih]

/-- Rewritings with leads apart commute.

**Proof sketch.** Induction on the lines. No line is found by both leads, also not after one of the
rewritings, so on the first line at most one of them acts, and the other one goes on behind it. -/
theorem rewriteFirst_comm (hp : lead <+: content) (hp' : other <+: text) (ls : List Line) :
    rewriteFirst lead content (rewriteFirst other text ls) =
      rewriteFirst other text (rewriteFirst lead content ls) := by
  induction ls with
  | nil => rfl
  | cons line rest ih =>
    by_cases h : line.startsWith lead = true
    · have hold := not_startsWith_of_startsWith hlo hol h
      have hnew : Line.startsWith other { line with content } = false :=
        not_startsWith_of_startsWith hlo hol (startsWith_iff.2 hp)
      simp [rewriteFirst, h, hold, hnew]
    · by_cases ho : line.startsWith other = true
      · have hnew : Line.startsWith lead { line with content := text } = false :=
          not_startsWith_of_startsWith hol hlo (startsWith_iff.2 hp')
        simp [rewriteFirst, h, ho, hnew]
      · simp [rewriteFirst, h, ho, ih]

end Apart

/-- Rewritten lines are the lines of a text exactly if the rewritten line can stand in one. -/
lemma areLines_rewriteFirst_iff {ls : List Line} (h : AreLines ls) :
    AreLines (rewriteFirst lead content ls) ↔
      ∀ line, ls.find? (Line.startsWith lead) = some line →
        Line.IsProper { line with content } := by
  induction ls with
  | nil => simp [rewriteFirst, AreLines]
  | cons line rest ih =>
    obtain ⟨hline, hlast, hrest⟩ := h
    by_cases hs : line.startsWith lead = true
    · rw [rewriteFirst, if_pos hs, List.find?_cons_of_pos hs]
      simp only [Option.some.injEq, forall_eq']
      exact ⟨fun h => h.1, fun h => ⟨h, hlast, hrest⟩⟩
    · rw [rewriteFirst, if_neg hs, List.find?_cons_of_neg hs, ← ih hrest]
      refine ⟨fun h => h.2.2, fun h => ⟨hline, fun ha => ?_, h⟩⟩
      rw [hlast ha]
      rfl

/-- A line of a text that is found is proper. -/
lemma isProper_of_find? {ls : List Line} {line : Line} {p : Line → Bool} (h : AreLines ls)
    (hl : ls.find? p = some line) : line.IsProper := by
  induction ls with
  | nil => simp at hl
  | cons first rest ih =>
    by_cases hs : p first = true
    · rw [List.find?_cons_of_pos hs] at hl
      obtain rfl : first = line := by simpa using hl
      exact h.1
    · rw [List.find?_cons_of_neg hs] at hl
      exact ih h.2.2 hl

end Rewriting

/-! ### The line of a target -/

namespace Target

variable (target : Target) {version : String}

/-- The characters of the tail. -/
def tailChars : List Char := (target.tail.getD "").toList

/-- The tail holds no line break. -/
def TailIsPlain : Prop := ∀ c ∈ target.tailChars, c ≠ '\r' ∧ c ≠ '\n'

-- by the characters of the tail; a search finds an instance that goes through all characters there are
instance : DecidablePred TailIsPlain := fun target => List.decidableBAll _ target.tailChars

/-- The tail breaks the line that it is written to, or joins the line's ending. -/
def breaks (line : Line) : Prop :=
  '\n' ∈ target.tailChars ∨ target.tailChars.getLast? = some '\r' ∧ line.ending = .lineFeed

/-- The line of a target, as characters. -/
lemma toList_line (version : String) :
    (target.line version).toList =
      target.lead.toList ++ ((target.style.write version).toList ++ target.tailChars) := by
  simp [line, tailChars]

/-- The line of a target starts with the lead. -/
lemma lead_prefix_line (version : String) : target.lead.toList <+: (target.line version).toList := by
  rw [toList_line]
  exact List.prefix_append _ _

/-- A version that is not empty is written as something. -/
lemma write_ne_nil {style : Style} (h : version.toList ≠ []) : (style.write version).toList ≠ [] := by
  cases style with
  | quoted => simp [Style.write]
  | bare => exact h

/-- A version without a character other than the quotation mark is written without it. -/
lemma notMem_write (style : Style) {c : Char} (hc : c ≠ '"') (h : c ∉ version.toList) :
    c ∉ (style.write version).toList := by
  cases style with
  | quoted => simp [Style.write, hc, h]
  | bare => exact h

/-- The line of a target is not empty if the version is not. -/
lemma line_ne_nil (h : version.toList ≠ []) : (target.line version).toList ≠ [] := by
  rw [toList_line]
  simp [write_ne_nil h]

section Accepted

variable {field : String} (hv : Check.version field version = .ok ())

include hv

/-- What an accepted version is written as does not end with a carriage return. -/
lemma getLast?_write_ne {style : Style} : (style.write version).toList.getLast? ≠ some '\r' := by
  intro h
  exact notMem_write style (by decide) (Check.return_notMem_of_version hv) (List.mem_of_getLast? h)

/-- The line of a target ends with a carriage return exactly if the tail does. -/
lemma getLast?_line_eq_return_iff :
    (target.line version).toList.getLast? = some '\r' ↔ target.tailChars.getLast? = some '\r' := by
  rw [toList_line]
  cases htail : target.tailChars.getLast? with
  | none =>
    have hnil : target.tailChars = [] := List.getLast?_eq_none_iff.1 htail
    have hne : (target.style.write version).toList ≠ [] :=
      write_ne_nil (Check.ne_nil_of_version hv)
    have hlast : (target.style.write version).toList.getLast? ≠ some '\r' := getLast?_write_ne hv
    rw [hnil, List.append_nil, List.getLast?_append_of_ne_nil _ hne]
    simp [hlast]
  | some c => simp [List.getLast?_append, htail]

/-- **When a rewritten line is read back as it was written**: exactly if the tail neither breaks it
nor joins its ending.

**Proof sketch.** The lead holds no line feed, since it stands at the start of a line, and an accepted
version holds no line break, so line feeds come from the tail only. The line ends as its tail does,
or, without a tail, with a character of the version or a quotation mark. -/
theorem isProper_iff {line : Line} (hl : line.IsProper) (hs : line.startsWith target.lead.toList) :
    Line.IsProper { line with content := (target.line version).toList } ↔ ¬ target.breaks line := by
  have hlead : '\n' ∉ target.lead.toList := fun hm =>
    hl.noLineFeed ((startsWith_iff.1 hs).subset hm)
  have hfeed : '\n' ∈ (target.line version).toList ↔ '\n' ∈ target.tailChars := by
    rw [toList_line]
    simp [hlead, notMem_write target.style (by decide : '\n' ≠ '"')
      (Check.lineFeed_notMem_of_version hv)]
  have hlast := target.getLast?_line_eq_return_iff hv
  unfold breaks
  constructor
  · rintro ⟨hf, hr, -⟩ (htail | ⟨htail, he⟩)
    · exact hf (hfeed.2 htail)
    · exact hr he (hlast.2 htail)
  · intro h
    refine ⟨fun hm => h (.inl (hfeed.1 hm)), fun he hr => h (.inr ⟨hlast.1 hr, he⟩), fun _ => ?_⟩
    exact target.line_ne_nil (Check.ne_nil_of_version hv)

end Accepted

/-- A plain tail breaks no line. -/
lemma not_breaks_of_tailIsPlain (h : target.TailIsPlain) (line : Line) : ¬ target.breaks line := by
  rintro (hm | ⟨hr, -⟩)
  · exact (h _ hm).2 rfl
  · exact (h _ (List.mem_of_getLast? hr)).1 rfl

/-- A plain tail holds no line feed. -/
lemma lineFeed_notMem_of_tailIsPlain (h : target.TailIsPlain) : '\n' ∉ target.tailChars :=
  fun hm => (h _ hm).2 rfl

/-! ### Patches -/

/-- What is reported when a lead has found a line, or none. -/
def outcomeAt (version : String) : Option Line → Outcome
  | none => .leadNotFound
  | some line =>
    if line.content = (target.line version).toList then .unchanged (target.line version)
    else .updated (target.line version)

/-- The line that a target's lead finds in a text. -/
def found? (text : String) : Option Line :=
  (lines text.toList).find? (Line.startsWith target.lead.toList)

/-- The lines of a text with the line of a target rewritten. -/
def rewrite (version : String) (ls : List Line) : List Line :=
  rewriteFirst target.lead.toList (target.line version).toList ls

/-- A patch leaves a text without a line that starts with the lead. -/
lemma patch_of_found?_eq_none {version text : String} (h : target.found? text = none) :
    target.patch version text = (text, .leadNotFound) := by
  have hnone : replaceFirst target.lead.toList (target.line version).toList (lines text.toList) =
      none := by
    rw [replaceFirst_eq]
    exact Option.map_eq_none_iff.2 h
  simp only [patch, hnone]

/-- A patch writes the line that starts with the lead, if it is another one. -/
lemma patch_of_found?_eq_some {version text : String} {line : Line}
    (h : target.found? text = some line) :
    target.patch version text =
      if line.content = (target.line version).toList then (text, .unchanged (target.line version))
      else (String.ofList (unlines (target.rewrite version (lines text.toList))),
        .updated (target.line version)) := by
  have hsome : replaceFirst target.lead.toList (target.line version).toList (lines text.toList) =
      some (line.content, target.rewrite version (lines text.toList)) := by
    rw [replaceFirst_eq]
    exact Option.map_eq_some_iff.2 ⟨line, h, rfl⟩
  simp only [patch, hsome]

/-- **What a patch does**: it rewrites the first line that starts with the lead, and reports what
was found there. -/
theorem patch_eq (version text : String) :
    target.patch version text =
      (String.ofList (unlines (target.rewrite version (lines text.toList))),
        target.outcomeAt version (target.found? text)) := by
  -- a text stays if no line is found or if the line is the one to be written
  have hself : (∀ line, target.found? text = some line →
      line.content = (target.line version).toList) →
      String.ofList (unlines (target.rewrite version (lines text.toList))) = text := by
    intro h
    have hlines : target.rewrite version (lines text.toList) = lines text.toList :=
      rewriteFirst_eq_self_iff.2 h
    rw [hlines, Text.unlines_lines, String.ofList_toList]
  cases hf : target.found? text with
  | none => rw [target.patch_of_found?_eq_none hf, hself (by simp [hf]), outcomeAt]
  | some line =>
    rw [target.patch_of_found?_eq_some hf]
    by_cases hc : line.content = (target.line version).toList
    · rw [if_pos hc, hself (by simp [hf, hc]), outcomeAt, if_pos hc]
    · rw [if_neg hc, outcomeAt, if_neg hc]

/-- A patch leaves the text exactly if it leaves the lines. -/
lemma patch_fst_eq_iff_rewrite {version text : String} :
    (target.patch version text).1 = text ↔
      target.rewrite version (lines text.toList) = lines text.toList := by
  rw [patch_eq]
  constructor
  · intro h
    have hchars := congrArg String.toList h
    rw [String.toList_ofList] at hchars
    exact rewriteFirst_eq_self_of_unlines (hchars.trans (Text.unlines_lines _).symm)
  · intro h
    simp [h, Text.unlines_lines]

/-- **A patch changes the text exactly if it reports a change.** -/
theorem patch_fst_eq_iff {version text : String} :
    (target.patch version text).1 = text ↔
      (target.patch version text).2 ≠ .updated (target.line version) := by
  rw [patch_fst_eq_iff_rewrite, rewrite, rewriteFirst_eq_self_iff, patch_eq]
  unfold found?
  cases (lines text.toList).find? (Line.startsWith target.lead.toList) with
  | none => simp [outcomeAt]
  | some line =>
    by_cases hc : line.content = (target.line version).toList
    · simp [outcomeAt, hc]
    · simp [outcomeAt, hc]

/-- Where no line breaks, the lines of a patched text are the lines with one of them rewritten. -/
lemma lines_patch_iff {version text : String} :
    lines (target.patch version text).1.toList = target.rewrite version (lines text.toList) ↔
      ∀ line, target.found? text = some line →
        Line.IsProper { line with content := (target.line version).toList } := by
  rw [patch_eq, String.toList_ofList, Text.lines_unlines_iff, rewrite,
    areLines_rewriteFirst_iff (Text.areLines_lines _)]
  rfl

/-- With a plain tail and an accepted version, the lines of a patched text are the lines with one of
them rewritten. -/
theorem lines_patch (hp : target.TailIsPlain) {field version : String}
    (hv : Check.version field version = .ok ()) (text : String) :
    lines (target.patch version text).1.toList = target.rewrite version (lines text.toList) := by
  refine target.lines_patch_iff.2 fun line hl => ?_
  refine (target.isProper_iff hv ?_ (List.find?_some hl)).2 (target.not_breaks_of_tailIsPlain hp line)
  exact isProper_of_find? (Text.areLines_lines _) hl

end Target

end Workbench
