import Workbench.Proofs.Version.Cuts

set_option relaxedAutoImplicit false
set_option autoImplicit false

/-!
# Leads that find different lines

Two leads of which none starts with the other find different lines of a text, and this stays so when a
patch rewrites the line of one of them: what it writes starts with that lead again. Such patches leave
what the other one finds, and they can be made in either order.

Nothing more than the absence of line feeds is asked of versions and tails here. A rewritten line may
then be read with another ending, if its content ends with a carriage return, but no lead apart from its
own finds it either way.

## Main results

* `Workbench.unlines_rewriteFirst_congr` — a line that is not found may be read in another way.
* `Workbench.Target.exists_lines_patch` — how the lines of a patched text are read.
* `Workbench.Target.found?_patch_of_apart` — a patch leaves what a lead apart from its own finds.
* `Workbench.Target.patch_comm` — patches with leads apart commute.
-/

namespace Workbench

open Text (Line lines unlines)

/-! ### Lines that are not found -/

section NotFound

variable {lead content : List Char} {passed rest : List Line} {line read : Line}
  (hline : line.startsWith lead = false) (hread : read.startsWith lead = false)

include hline hread

/-- What a lead finds does not depend on a line that it does not find. -/
lemma find?_congr_of_not_startsWith :
    (passed ++ line :: rest).find? (Line.startsWith lead) =
      (passed ++ read :: rest).find? (Line.startsWith lead) := by
  rw [List.find?_append, List.find?_append, List.find?_cons_of_neg (by simp [hline]),
    List.find?_cons_of_neg (by simp [hread])]

/-- **A line that is not found may be read in another way**: the text that a rewriting makes is the
same. -/
theorem unlines_rewriteFirst_congr (hchars : line.chars = read.chars) :
    unlines (rewriteFirst lead content (passed ++ line :: rest)) =
      unlines (rewriteFirst lead content (passed ++ read :: rest)) := by
  induction passed with
  | nil => simp [rewriteFirst, hline, hread, Text.unlines_cons, hchars]
  | cons first passed ih =>
    by_cases h : first.startsWith lead = true
    · simp [rewriteFirst, h, Text.unlines_cons, Text.unlines_append, hchars]
    · simp only [List.cons_append, rewriteFirst, if_neg h, Text.unlines_cons, ih]

end NotFound

namespace Target

variable {a b : Target} {text version other : String}

/-- The line of a target holds no line feed if the lead, the version and the tail hold none. -/
lemma lineFeed_notMem_line (hlead : '\n' ∉ a.lead.toList) (htail : '\n' ∉ a.tailChars)
    (hversion : '\n' ∉ version.toList) : '\n' ∉ (a.line version).toList := by
  rw [toList_line]
  simp [hlead, htail, notMem_write a.style (by decide : '\n' ≠ '"') hversion]

/-- **How the lines of a patched text are read**: they are the lines of the text with another one in the
place of the line that was found. It is written like the line of the target with the ending of that line;
a carriage return at the end of its content may be read as a part of the ending. -/
theorem exists_lines_patch (hne : a.lead.toList ≠ []) (htail : '\n' ∉ a.tailChars)
    (hversion : '\n' ∉ version.toList) {line : Line} (h : a.found? text = some line) :
    ∃ passed rest read, lines text.toList = passed ++ line :: rest ∧
      a.rewrite version (lines text.toList) =
        passed ++ { line with content := (a.line version).toList } :: rest ∧
      lines (a.patch version text).1.toList = passed ++ read :: rest ∧
      read.chars = (a.line version).toList ++ line.ending.chars ∧
      read.content <+: (a.line version).toList := by
  obtain ⟨before, after, hcut⟩ := exists_isCut h
  have hlead : '\n' ∉ a.lead.toList := fun hm => hcut.proper.noLineFeed (hcut.starts.subset hm)
  have hfeed := lineFeed_notMem_line hlead htail hversion
  have hcontent : (a.line version).toList ≠ [] := by
    rw [toList_line]
    simp [hne]
  obtain ⟨read, hlines, hchars, hprefix⟩ := Text.exists_lines_eq_cons hfeed hcontent hcut.last
  refine ⟨lines before, lines after, read, hcut.lines_eq, hcut.rewriteFirst_eq _, ?_, hchars, hprefix⟩
  rw [(hcut.patch_eq version).1, List.append_assoc, List.append_assoc,
    Text.lines_append hcut.whole, ← List.append_assoc, hlines]

variable (hab : ¬ a.lead.toList <+: b.lead.toList) (hba : ¬ b.lead.toList <+: a.lead.toList)

include hab hba

/-- A lead does not find a line that is read from the start of the line of a target with a lead apart. -/
lemma not_startsWith_of_prefix_line {read : Line} (h : read.content <+: (a.line version).toList) :
    read.startsWith b.lead.toList = false := by
  rw [Bool.eq_false_iff]
  intro hs
  rcases List.prefix_or_prefix_of_prefix (a.lead_prefix_line version) ((startsWith_iff.1 hs).trans h)
    with hp | hp
  · exact hab hp
  · exact hba hp

/-- **A patch leaves what a lead apart from its own finds.** -/
theorem found?_patch_of_apart (htail : '\n' ∉ a.tailChars) (hversion : '\n' ∉ version.toList)
    (text : String) : b.found? (a.patch version text).1 = b.found? text := by
  cases hf : a.found? text with
  | none => rw [a.patch_of_found?_eq_none hf]
  | some line =>
    have hne : a.lead.toList ≠ [] := fun hnil => hab (hnil ▸ List.nil_prefix)
    obtain ⟨passed, rest, read, hlines, -, hpatched, -, hprefix⟩ :=
      exists_lines_patch hne htail hversion hf
    rw [found?, found?, hpatched, hlines]
    exact find?_congr_of_not_startsWith (not_startsWith_of_prefix_line hab hba hprefix)
      (not_startsWith_of_startsWith hab hba (List.find?_some hf))

/-- A patch after one with a lead apart acts as if the line of that one had been rewritten in the list of
lines. -/
lemma toList_patch_patch (htail : '\n' ∉ a.tailChars) (hversion : '\n' ∉ version.toList) :
    (b.patch other (a.patch version text).1).1.toList =
      unlines (b.rewrite other (a.rewrite version (lines text.toList))) := by
  rw [patch_eq, String.toList_ofList]
  cases hf : a.found? text with
  | none =>
    have hself : a.rewrite version (lines text.toList) = lines text.toList := by
      refine rewriteFirst_eq_self_iff.2 fun line hl => ?_
      rw [found?, hl] at hf
      simp at hf
    rw [a.patch_of_found?_eq_none hf, hself]
  | some line =>
    have hne : a.lead.toList ≠ [] := fun hnil => hab (hnil ▸ List.nil_prefix)
    obtain ⟨passed, rest, read, -, hrewrite, hpatched, hchars, hprefix⟩ :=
      exists_lines_patch hne htail hversion hf
    rw [hpatched, hrewrite]
    exact unlines_rewriteFirst_congr (not_startsWith_of_prefix_line hab hba hprefix)
      (not_startsWith_of_prefix_line hab hba (List.prefix_refl _)) hchars

/-- **Patches with leads apart commute.** -/
theorem patch_comm (ha : '\n' ∉ a.tailChars) (hb : '\n' ∉ b.tailChars)
    (hversion : '\n' ∉ version.toList) (hother : '\n' ∉ other.toList) (text : String) :
    (b.patch other (a.patch version text).1).1 = (a.patch version (b.patch other text).1).1 := by
  rw [← String.toList_inj, toList_patch_patch hab hba ha hversion, toList_patch_patch hba hab hb hother]
  exact congrArg unlines
    (rewriteFirst_comm hba hab (b.lead_prefix_line other) (a.lead_prefix_line version) _)

end Target

end Workbench
