import Workbench.Proofs.Version.Cuts

set_option relaxedAutoImplicit false
set_option autoImplicit false

/-!
# The version that was written can be read back

Nothing marks where a version starts and ends in a line but the lead, quotation marks and the end of the
line. This is enough: an accepted version holds no quotation mark and no line break. So it can be read
again in the patched text, on the first line that starts with the lead, if it is written between
quotation marks, if the tail starts with one, or if there is no tail. Tails may break the line, but they
do so behind the version.

## Main definitions

* `Workbench.Text.untilQuote?` — what stands in front of the next quotation mark.
* `Workbench.Target.MarksEnd` — the targets that show where a version ends.
* `Workbench.Target.version?` — the version that a text has for a target.

## Main results

* `Workbench.Target.exists_found?_patch` — what the lead finds in a patched text.
* `Workbench.patch_readsBack` — the version of a patched text is the one that was written.
-/

namespace Workbench

open Text (Line lines firstContent)

/-! ### Reading a version -/

/-- What stands in front of the next quotation mark, if there is one. -/
def Text.untilQuote? (cs : List Char) : Option (List Char) :=
  if '"' ∈ cs then some (cs.takeWhile (· ≠ '"')) else none

/-- The next quotation mark stands behind a text that holds none. -/
lemma Text.untilQuote?_append {cs : List Char} (h : '"' ∉ cs) (rest : List Char) :
    untilQuote? (cs ++ '"' :: rest) = some cs := by
  have hcs : ∀ c ∈ cs, decide (c ≠ '"') = true := fun c hc => by
    simpa using fun hquote : c = '"' => h (hquote ▸ hc)
  rw [untilQuote?, if_pos (by simp), List.takeWhile_append_of_pos hcs,
    List.takeWhile_cons_of_neg (by simp), List.append_nil]

/-- The quotation mark at both ends of a version, if there is one. -/
def Style.mark : Style → List Char
  | .quoted => ['"']
  | .bare => []

/-- What a version is written as. -/
lemma Style.toList_write (style : Style) (version : String) :
    (style.write version).toList = style.mark ++ version.toList ++ style.mark := by
  cases style <;> simp [write, mark]

namespace Target

variable (target : Target)

/-- A target that shows where a version ends: at a quotation mark of its style or of its tail, or where
the line ends. -/
def MarksEnd : Prop :=
  target.style = .quoted ∨ target.tailChars = [] ∨ target.tailChars.head? = some '"'

/-- The version behind a lead: what stands between quotation marks, or up to the one that the tail starts
with, or up to the end if there is no tail. -/
def versionBehind? (rest : List Char) : Option (List Char) :=
  match target.style, target.tailChars, rest with
  | .quoted, _, '"' :: rest => Text.untilQuote? rest
  | .bare, '"' :: _, rest => Text.untilQuote? rest
  | .bare, [], rest => some rest
  | _, _, _ => none

/-- The version that a text has for a target: behind the lead on the first line that starts with it. -/
def version? (text : String) : Option String := do
  let line ← target.found? text
  let version ← target.versionBehind? (line.content.drop target.lead.toList.length)
  some (String.ofList version)

variable {target} {field version text : String} (hv : Check.version field version = .ok ())

/-! ### The line in a patched text -/

include hv

/-- **What the lead finds in a patched text**: a line that starts with the lead and the version as it is
written, behind which the line goes on as the tail does.

**Proof sketch.** The patch puts the line of the target where the text is cut (`IsCut.patch_eq`). What it
writes up to the end of the version holds no line break, so all of it stands on one line, and the lines
before the cut are those of the text, of which none starts with the lead. -/
theorem exists_found?_patch {line : Line} (h : target.found? text = some line) :
    ∃ read after, target.found? (target.patch version text).1 = some read ∧
      (line.ending = .absent → after = []) ∧
      read.content = target.lead.toList ++ (target.style.mark ++ version.toList ++
        firstContent (target.style.mark ++ target.tailChars ++ (line.ending.chars ++ after))) := by
  obtain ⟨before, after, hcut⟩ := exists_isCut h
  let start := target.lead.toList ++ (target.style.mark ++ version.toList)
  let rest := target.style.mark ++ target.tailChars ++ (line.ending.chars ++ after)
  have hpatched : (target.patch version text).1.toList = before ++ (start ++ rest) := by
    rw [(hcut.patch_eq version).1, toList_line, Style.toList_write]
    simp [start, rest]
  have hversion : version.toList ≠ [] := Check.ne_nil_of_version hv
  have hlead : '\n' ∉ target.lead.toList := fun hm => hcut.proper.noLineFeed (hcut.starts.subset hm)
  have hmark : '\n' ∉ target.style.mark := by cases target.style <;> simp [Style.mark]
  have hfeed : '\n' ∉ start := by
    simp [start, hlead, hmark, Check.lineFeed_notMem_of_version hv]
  have hreturn : start.getLast? ≠ some '\r' := by
    intro hlast
    simp only [start, ← List.append_assoc] at hlast
    rw [List.getLast?_append_of_ne_nil _ hversion] at hlast
    exact Check.return_notMem_of_version hv (List.mem_of_getLast? hlast)
  obtain ⟨read, behind, hlines, hcontent⟩ :=
    Text.exists_lines_append_eq_cons (by simp [start, hversion]) hfeed hreturn rest
  refine ⟨read, after, ?_, hcut.last, by simp [hcontent, start, rest]⟩
  have hstarts : read.startsWith target.lead.toList = true := by
    rw [startsWith_iff, hcontent]
    simp [start]
  rw [found?, hpatched, Text.lines_append hcut.whole, hlines, List.find?_append,
    List.find?_eq_none.2 fun other hm => by simp [hcut.not_startsWith_before other hm],
    List.find?_cons_of_pos hstarts]
  rfl

/-- Behind the lead, the version that was written is read where its end is shown. -/
lemma versionBehind?_written (hmarks : target.MarksEnd) {ending : Text.Ending} {after : List Char}
    (hlast : ending = .absent → after = []) :
    target.versionBehind? (target.style.mark ++ version.toList ++
      firstContent (target.style.mark ++ target.tailChars ++ (ending.chars ++ after))) =
        some version.toList := by
  have hquote : '"' ∉ version.toList := Check.quote_notMem_of_version hv
  -- a quotation mark behind the version stands on the same line
  have hbehind : ∀ rest, Text.untilQuote? (version.toList ++ firstContent ('"' :: rest)) =
      some version.toList := by
    intro rest
    have hfirst : firstContent (['"'] ++ rest) = ['"'] ++ firstContent rest :=
      Text.firstContent_append (by simp) (by simp) (by simp) rest
    rw [List.singleton_append, List.singleton_append] at hfirst
    rw [hfirst, Text.untilQuote?_append hquote]
  cases hstyle : target.style with
  | quoted =>
    simp only [versionBehind?, hstyle, Style.mark, List.cons_append, List.nil_append]
    exact hbehind _
  | bare =>
    simp only [versionBehind?, hstyle, Style.mark, List.nil_append]
    rcases hmarks with hquoted | hnone | hhead
    · simp [hstyle] at hquoted
    · simp [hnone, Text.firstContent_chars_append hlast]
    · obtain ⟨tail, htail⟩ := List.head?_eq_some_iff.1 hhead
      simp only [htail, List.cons_append]
      exact hbehind _

end Target

/-- **The version of a patched text is the one that was written.** If an accepted version is written into a
text that has a line for the target, and the target shows where a version ends, then the version is read
back from the patched text. For any target, texts that are patched with different versions are different.

**Proof sketch.** The lead finds the written line again (`Target.exists_found?_patch`), and behind the
lead the version is read up to its end (`Target.versionBehind?_written`). Two patches of a text cut it in
the same way, so that they write the same line if they make the same text, and the version is all in that
line that is not given by the target. -/
theorem patch_readsBack {target : Target} {field version text : String}
    (hv : Check.version field version = .ok ())
    (hfound : (target.patch version text).2 ≠ .leadNotFound) :
    (target.MarksEnd → target.version? (target.patch version text).1 = some version) ∧
      ∀ other, other ≠ version → (target.patch other text).1 ≠ (target.patch version text).1 := by
  obtain ⟨line, hline⟩ : ∃ line, target.found? text = some line := by
    refine Option.ne_none_iff_exists'.1 fun hnone => hfound ?_
    rw [target.patch_of_found?_eq_none hnone]
  constructor
  · intro hmarks
    obtain ⟨read, after, hread, hlast, hcontent⟩ := Target.exists_found?_patch hv hline
    have hbehind : target.versionBehind? (read.content.drop target.lead.toList.length) =
        some version.toList := by
      rw [hcontent, List.drop_left]
      exact Target.versionBehind?_written hv hmarks hlast
    simp [Target.version?, hread, hbehind]
  · intro other hne hsame
    obtain ⟨before, after, hcut⟩ := exists_isCut hline
    have hchars := congrArg String.toList hsame
    rw [(hcut.patch_eq other).1, (hcut.patch_eq version).1, Target.toList_line, Target.toList_line,
      Style.toList_write, Style.toList_write] at hchars
    exact hne (String.toList_inj.1 (by simpa using hchars))

/-- A line with a carriage return in its lead and a quotation mark and a line break in its tail: the line
is broken, and the version is read back from what is left of it. -/
theorem patch_readsBack_broken_line :
    let target : Target := { path := "f", lead := "v=\r", style := .bare, tail := some "\"\r\n;" }
    let text := "w=\nv=\r0\"\r\r\nv=\r1"
    (Check.version "version" "1.0 é" = .ok () ∧ (target.patch "1.0 é" text).2 ≠ .leadNotFound ∧
      target.MarksEnd) ∧
    target.version? (target.patch "1.0 é" text).1 = some "1.0 é" ∧
      (target.patch "1.0 é" text).1 = "w=\nv=\r1.0 é\"\r\n;\r\nv=\r1" := by
  intro target text
  have hv : Check.version "version" "1.0 é" = .ok () := by decide
  have hfound : (target.patch "1.0 é" text).2 ≠ .leadNotFound := by decide +kernel
  have hmarks : target.MarksEnd := .inr (.inr (by decide))
  exact ⟨⟨hv, hfound, hmarks⟩, (patch_readsBack hv hfound).1 hmarks, by decide +kernel⟩

end Workbench
