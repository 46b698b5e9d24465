import Workbench.Proofs.Version.Trace
import Workbench.Text.Octets

set_option relaxedAutoImplicit false
set_option autoImplicit false

/-!
# A patch as one edit of a text

A text that has a line for a target can be cut in one way: into whole lines of which none starts with
the lead, the line that does, and the rest. A patch puts the line of the target in the place of the
content between the cuts and touches nothing else.

A patch can also be made without lists of lines, by going through the text and counting octets. Here is
such a walk, which cuts the text at the places that it has counted. A place that lies behind the end of
the text or inside a character would give no cut; the walk never comes to one.

## Main definitions

* `Workbench.IsCut` — a text cut at the first line that starts with a lead.
* `Workbench.Target.patchFrom` — a patch by a walk over the text.
* `Workbench.Target.Reaches` — the places and lines that the walk comes to.

## Main results

* `Workbench.IsCut.eq_of_isCut` — there is at most one cut.
* `Workbench.IsCut.patch_eq` — what a patch makes of the parts.
* `Workbench.Target.Reaches.exists_passed` — where the walk is.
* `Workbench.Target.Reaches.patchFrom_eq` — the walk answers what the patch does.
* `Workbench.patch_isOneEdit` — a patch is one edit.
-/

namespace Workbench

open Text (Line lines unlines IsWhole octetCount)

/-! ### Cuts at lines -/

/-- A text cut at the first line that starts with a lead. -/
structure IsCut (lead text before : List Char) (line : Line) (after : List Char) : Prop where
  text_eq : text = before ++ line.content ++ line.ending.chars ++ after
  /-- What stands before the line is empty or ends with a line feed. -/
  whole : IsWhole before
  /-- No line of it starts with the lead. -/
  none_before : ∀ other ∈ lines before, ¬ lead <+: other.content
  /-- The content holds no line feed, does not end with a carriage return in front of one, and is not
  empty if there is no ending. -/
  proper : line.IsProper
  /-- Only at the end of the text there may be no ending. -/
  last : line.ending = .absent → after = []
  starts : lead <+: line.content

namespace IsCut

variable {lead text before after : List Char} {line : Line}

/-- The line of a cut stands in the text with its ending. -/
lemma text_eq_chars (h : IsCut lead text before line after) :
    text = before ++ (line.chars ++ after) := by
  simp [h.text_eq, Line.chars]

/-- The lines of a text that is cut are those of its parts. -/
lemma lines_eq (h : IsCut lead text before line after) :
    lines text = lines before ++ line :: lines after := by
  rw [h.text_eq_chars, Text.lines_append h.whole,
    Text.lines_chars_append_of_isProper h.proper h.last]

/-- The lead finds no line before the cut. -/
lemma not_startsWith_before (h : IsCut lead text before line after) :
    ∀ other ∈ lines before, other.startsWith lead = false := fun other hm =>
  Bool.eq_false_iff.2 fun hs => h.none_before other hm (startsWith_iff.1 hs)

/-- The first line that starts with the lead is where the text is cut. -/
lemma find?_eq (h : IsCut lead text before line after) :
    (lines text).find? (Line.startsWith lead) = some line :=
  List.find?_eq_some_iff_append.2 ⟨startsWith_iff.2 h.starts, _, _, h.lines_eq,
    fun other hm => by simp [h.not_startsWith_before other hm]⟩

/-- What is rewritten is the line of the cut. -/
lemma rewriteFirst_eq (h : IsCut lead text before line after) (content : List Char) :
    rewriteFirst lead content (lines text) = lines before ++ { line with content } :: lines after := by
  rw [h.lines_eq, rewriteFirst_append_cons h.not_startsWith_before (startsWith_iff.2 h.starts)]

/-- **A text is cut in one way.**

**Proof sketch.** The lines before the cut are those up to the first one that starts with the lead, so
that two cuts have the same text before them. What follows is then the same text too, with the same
lines. -/
theorem eq_of_isCut {before' after' : List Char} {line' : Line}
    (h : IsCut lead text before line after) (h' : IsCut lead text before' line' after') :
    before = before' ∧ line = line' ∧ after = after' := by
  have hfront : ∀ {before after : List Char} {line : Line}, IsCut lead text before line after →
      (lines text).takeWhile (fun other => !other.startsWith lead) = lines before := by
    intro before after line h
    have hnone : ∀ other ∈ lines before, (!other.startsWith lead) = true := fun other hm => by
      rw [h.not_startsWith_before other hm, Bool.not_false]
    rw [h.lines_eq, List.takeWhile_append_of_pos hnone,
      List.takeWhile_cons_of_neg (by simpa using h.starts), List.append_nil]
  have hbefore : lines before = lines before' := (hfront h).symm.trans (hfront h')
  have hrest : line :: lines after = line' :: lines after' := by
    refine (List.append_right_inj (lines before)).1 ?_
    rw [← h.lines_eq, hbefore, ← h'.lines_eq]
  obtain ⟨hline, hafter⟩ := List.cons.inj hrest
  exact ⟨Text.lines_injective hbefore, hline, Text.lines_injective hafter⟩

/-- What a patch makes of the parts of a text: it puts the line of the target in the place of the
content, and reports a change if that is another one. -/
theorem patch_eq {target : Target} {text : String} (version : String)
    (h : IsCut target.lead.toList text.toList before line after) :
    (target.patch version text).1.toList =
        before ++ (target.line version).toList ++ line.ending.chars ++ after ∧
      (target.patch version text).2 =
        if line.content = (target.line version).toList then .unchanged (target.line version)
        else .updated (target.line version) := by
  have hfound : target.found? text = some line := h.find?_eq
  rw [Target.patch_eq, Target.rewrite, h.rewriteFirst_eq, hfound]
  refine ⟨?_, rfl⟩
  rw [String.toList_ofList, Text.unlines_append, Text.unlines_cons, Text.unlines_lines,
    Text.unlines_lines]
  simp [Line.chars]

end IsCut

/-- Lines of a text of which one is the first to start with a lead are a cut of the text. -/
lemma isCut_of_lines_eq {lead text : List Char} {passed rest : List Line} {line : Line}
    (h : lines text = passed ++ line :: rest)
    (hpassed : ∀ other ∈ passed, other.startsWith lead = false) (hs : line.startsWith lead = true) :
    IsCut lead text (unlines passed) line (unlines rest) := by
  have hare := Text.areLines_lines text
  rw [h] at hare
  obtain ⟨hfront, hends, hproper, hlast, -⟩ := Text.areLines_append_cons_iff.1 hare
  refine ⟨?_, Text.isWhole_unlines hends, ?_, hproper, fun ha => ?_, startsWith_iff.1 hs⟩
  · rw [← Text.unlines_lines text, h, Text.unlines_append]
    simp [unlines, Line.chars]
  · rw [Text.lines_unlines hfront]
    intro other hm ho
    simpa [startsWith_iff.2 ho] using hpassed other hm
  · rw [hlast ha]
    rfl

/-- A text with a line for a lead can be cut there. -/
lemma exists_isCut {lead text : List Char} {line : Line}
    (h : (lines text).find? (Line.startsWith lead) = some line) :
    ∃ before after, IsCut lead text before line after := by
  obtain ⟨hs, passed, rest, hlines, hpassed⟩ := List.find?_eq_some_iff_append.1 h
  exact ⟨_, _, isCut_of_lines_eq hlines (fun other hm => by simpa using hpassed other hm) hs⟩

/-! ### Cuts at places -/

/-- A text can be cut before and behind a line in it, and the line behind its content. -/
lemma Text.cutAt?_line {cs before after : List Char} {line : Line}
    (h : cs = before ++ (line.chars ++ after)) :
    cutAt? (octetCount before) cs = some (before, line.chars ++ after) ∧
      cutAt? (octetCount before + octetCount line.chars) cs = some (before ++ line.chars, after) ∧
      cutAt? (octetCount line.content) line.chars = some (line.content, line.ending.chars) := by
  refine ⟨cutAt?_eq_some_iff.2 ⟨h, rfl⟩, cutAt?_eq_some_iff.2 ⟨?_, octetCount_append before line.chars⟩,
    cutAt?_eq_some_iff.2 ⟨rfl, rfl⟩⟩
  rw [h, List.append_assoc]

/-- A patch by a walk over the text: from a line at a place on, with the lines that are still to come. At
the first line that starts with the lead the text is cut before and behind it, and the line is cut
behind its content. -/
def Target.patchFrom (target : Target) (version text : String) :
    Nat → List Line → Option (String × Outcome)
  | _, [] => some (text, .leadNotFound)
  | place, line :: rest =>
    if line.startsWith target.lead.toList then
      if (target.line version).toList = line.content then
        some (text, .unchanged (target.line version))
      else do
        let (_, ending) ← Text.cutAt? (octetCount line.content) line.chars
        let (before, _) ← Text.cutAt? place text.toList
        let (_, after) ← Text.cutAt? (place + octetCount line.chars) text.toList
        some (String.ofList (before ++ (target.line version).toList ++ ending ++ after),
          .updated (target.line version))
    else target.patchFrom version text (place + octetCount line.chars) rest

/-- The places that the walk comes to, with the lines that are then still to come. -/
inductive Target.Reaches (target : Target) (text : String) : Nat → List Line → Prop where
  /-- It starts in front of all lines. -/
  | start : Reaches target text 0 (lines text.toList)
  /-- It passes a line that does not start with the lead. -/
  | pass {place : Nat} {line : Line} {rest : List Line} (h : Reaches target text place (line :: rest))
    (hs : line.startsWith target.lead.toList = false) :
    Reaches target text (place + octetCount line.chars) rest

namespace Target.Reaches

variable {target : Target} {text : String} {place : Nat} {rest : List Line}

/-- **The place is always where the first of the lines to come starts**: it counts the octets of the
lines that were passed, of which none starts with the lead. -/
theorem exists_passed (h : target.Reaches text place rest) :
    ∃ passed, lines text.toList = passed ++ rest ∧ place = octetCount (unlines passed) ∧
      ∀ line ∈ passed, line.startsWith target.lead.toList = false := by
  induction h with
  | start => exact ⟨[], rfl, rfl, by simp⟩
  | @pass place line rest _ hs ih =>
    obtain ⟨passed, hlines, rfl, hpassed⟩ := ih
    refine ⟨passed ++ [line], by simp [hlines], ?_, ?_⟩
    · rw [Text.unlines_append, Text.octetCount_append]
      simp [unlines]
    · simpa [or_imp, forall_and, hs] using hpassed

/-- At each line that the walk comes to, the text can be cut before and behind the line, and the line
behind its content; the line starts at the place. -/
theorem cutAt?_eq {line : Line} (h : target.Reaches text place (line :: rest)) :
    ∃ before after, IsWhole before ∧
      Text.cutAt? place text.toList = some (before, line.chars ++ after) ∧
      Text.cutAt? (place + octetCount line.chars) text.toList = some (before ++ line.chars, after) ∧
      Text.cutAt? (octetCount line.content) line.chars = some (line.content, line.ending.chars) := by
  obtain ⟨passed, hlines, rfl, -⟩ := h.exists_passed
  have htext : text.toList = unlines passed ++ (line.chars ++ unlines rest) := by
    rw [← Text.unlines_lines text.toList, hlines, Text.unlines_append, Text.unlines_cons]
  have hare := Text.areLines_lines text.toList
  rw [hlines] at hare
  exact ⟨unlines passed, unlines rest, Text.isWhole_unlines (Text.areLines_append_cons_iff.1 hare).2.1,
    Text.cutAt?_line htext⟩

/-- **From wherever the walk comes to, it answers what the patch does.**

**Proof sketch.** Induction on the lines that are still to come. At a line that starts with the lead the
text is cut where the patch cuts it, and the parts are put together to the same text. If there is no line
left, no line was found. -/
theorem patchFrom_eq (version : String) (h : target.Reaches text place rest) :
    target.patchFrom version text place rest = some (target.patch version text) := by
  induction rest generalizing place with
  | nil =>
    obtain ⟨passed, hlines, -, hpassed⟩ := h.exists_passed
    have hnone : target.found? text = none := by
      rw [found?, hlines, List.append_nil, List.find?_eq_none]
      exact fun line hm => by simp [hpassed line hm]
    rw [patchFrom, target.patch_of_found?_eq_none hnone]
  | cons line rest ih =>
    by_cases hs : line.startsWith target.lead.toList = true
    · obtain ⟨passed, hlines, rfl, hpassed⟩ := h.exists_passed
      have hcut := isCut_of_lines_eq hlines hpassed hs
      obtain ⟨htext, houtcome⟩ := hcut.patch_eq version
      rw [patchFrom, if_pos hs]
      by_cases hc : line.content = (target.line version).toList
      · have hsame : (target.patch version text).1 = text := by
          rw [← String.toList_inj, htext, ← hc]
          exact hcut.text_eq.symm
        rw [if_pos hc] at houtcome
        rw [if_pos hc.symm]
        exact congrArg some (Prod.ext hsame.symm houtcome.symm)
      · obtain ⟨hplace, hbehind, hending⟩ := Text.cutAt?_line hcut.text_eq_chars
        rw [if_neg hc] at houtcome
        rw [if_neg (Ne.symm hc), hplace, hbehind, hending]
        refine congrArg some (Prod.ext ?_ houtcome.symm)
        rw [← String.toList_inj, htext, String.toList_ofList]
    · have hnot : line.startsWith target.lead.toList = false := Bool.eq_false_iff.2 hs
      rw [patchFrom, if_neg hs]
      exact ih (h.pass hnot)

end Target.Reaches

/-! ### One edit -/

/-- **A patch is one edit.** Either no line of the text starts with the lead, and the patch leaves the
text and reports so. Or the text can be cut, in one way only, into whole lines of which none starts with
the lead, a line that does, and the rest; then the patch puts the line of the target in the place of the
content of that line, whose ending and all else stay, and reports the line that it has put. It reports a
change exactly if the text is another one. A walk over the text that counts octets answers the same: the
place that it has counted is always the start of the line that it comes to, and the text can be cut there
and behind the line, and the line behind its content.

**Proof sketch.** A text with a line for the lead can be cut (`exists_isCut`), in one way
(`IsCut.eq_of_isCut`), and what the patch makes of the parts is `IsCut.patch_eq`. The walk knows where it
is by the octets of the lines that it has passed (`Target.Reaches.exists_passed`). -/
theorem patch_isOneEdit (target : Target) (version text : String) :
    ((∀ line ∈ lines text.toList, ¬ target.lead.toList <+: line.content) ∧
        target.patch version text = (text, .leadNotFound) ∨
      ∃ before line after, IsCut target.lead.toList text.toList before line after ∧
        (∀ before' line' after', IsCut target.lead.toList text.toList before' line' after' →
          before' = before ∧ line' = line ∧ after' = after) ∧
        (target.patch version text).1.toList =
          before ++ (target.line version).toList ++ line.ending.chars ++ after ∧
        ((target.patch version text).2 = .updated (target.line version) ∨
          (target.patch version text).2 = .unchanged (target.line version))) ∧
    ((∃ line, (target.patch version text).2 = .updated line) ↔ (target.patch version text).1 ≠ text) ∧
    target.patchFrom version text 0 (lines text.toList) = some (target.patch version text) ∧
    ∀ place line rest, target.Reaches text place (line :: rest) →
      target.patchFrom version text place (line :: rest) = some (target.patch version text) ∧
      ∃ before after, IsWhole before ∧
        Text.cutAt? place text.toList = some (before, line.chars ++ after) ∧
        Text.cutAt? (place + octetCount line.chars) text.toList = some (before ++ line.chars, after) ∧
        Text.cutAt? (octetCount line.content) line.chars =
          some (line.content, line.ending.chars) := by
  refine ⟨?_, ?_, Target.Reaches.start.patchFrom_eq version, fun place line rest h =>
    ⟨h.patchFrom_eq version, h.cutAt?_eq⟩⟩
  · cases hfound : target.found? text with
    | none =>
      refine .inl ⟨fun line hm hs => ?_, target.patch_of_found?_eq_none hfound⟩
      exact List.find?_eq_none.1 hfound line hm (startsWith_iff.2 hs)
    | some line =>
      obtain ⟨before, after, hcut⟩ := exists_isCut hfound
      obtain ⟨htext, houtcome⟩ := hcut.patch_eq version
      refine .inr ⟨before, line, after, hcut, fun _ _ _ h => h.eq_of_isCut hcut, htext, ?_⟩
      by_cases hc : line.content = (target.line version).toList
      · exact .inr (houtcome.trans (if_pos hc))
      · exact .inl (houtcome.trans (if_neg hc))
  · rw [Ne, target.patch_fst_eq_iff, not_not]
    constructor
    · rintro ⟨line, hline⟩
      rw [← eq_line_of_updated version hline, hline]
    · exact fun h => ⟨_, h⟩

/-- A line behind one that has the lead after a carriage return, and with a carriage return of its own in
front of its ending: it starts at the ninth octet. -/
theorem patch_isOneEdit_returns :
    let target : Target := { path := "f", lead := "é=", style := .quoted, tail := some "\r" }
    let text := "e=\n\ré=\né=1\r\r\nend"
    let line : Line := { content := "é=1\r".toList, ending := .carriageReturnLineFeed }
    let last : Line := { content := "end".toList, ending := .absent }
    (IsCut target.lead.toList text.toList "e=\n\ré=\n".toList line "end".toList ∧
      target.Reaches text 8 [line, last]) ∧
    (target.patch "2" text).1 = "e=\n\ré=\né=\"2\"\r\r\nend" ∧
    target.patchFrom "2" text 8 [line, last] = some (target.patch "2" text) := by
  intro target text line last
  have hcut : IsCut target.lead.toList text.toList "e=\n\ré=\n".toList line "end".toList :=
    { text_eq := by decide
      whole := .inr (by decide)
      none_before := by decide
      proper := ⟨by decide, by decide, by decide⟩
      last := by decide
      starts := by decide }
  have hlines : lines text.toList =
      [⟨"e=".toList, .lineFeed⟩, ⟨"\ré=".toList, .lineFeed⟩, line, last] := by decide
  have hstart : target.Reaches text 0 (lines text.toList) := .start
  rw [hlines] at hstart
  have hreaches : target.Reaches text 8 [line, last] := (hstart.pass (by decide)).pass (by decide)
  obtain ⟨⟨hnone, -⟩ | ⟨before, found, after, -, hunique, htext, -⟩, -, -, hwalk⟩ :=
    patch_isOneEdit target "2" text
  · exact absurd hcut.starts (hnone line (by simp [hlines]))
  · obtain ⟨rfl, rfl, rfl⟩ := hunique _ _ _ hcut
    exact ⟨⟨hcut, hreaches⟩, String.toList_inj.1 (htext.trans (by decide)), (hwalk _ _ _ hreaches).1⟩

end Workbench
