import Mathlib.Data.List.Basic
import Mathlib.Tactic.Lemma
import Workbench.Text.Line

set_option relaxedAutoImplicit false
set_option autoImplicit false

/-!
# Lists of lines that are the lines of a text

Not every list of lines is the list of lines of some text: a content that holds a line feed would be
cut in two, a carriage return at the end of a content would join the line feed after it, and a line
without an ending runs into the next one. `AreLines` excludes exactly these, so cutting a text into
lines and putting lines together are inverse to each other.

## Main definitions

* `Workbench.Text.Line.IsProper` — a line that is not read in another way once it stands in a text.
* `Workbench.Text.AreLines` — the lists of lines of texts.
* `Workbench.Text.IsWhole` — texts that do not end within a line.
* `Workbench.Text.firstContent` — what stands on the first line of a text.

## Main results

* `Workbench.Text.areLines_lines` — the lines of a text are such a list.
* `Workbench.Text.lines_unlines` — such a list is the list of lines of its text.
* `Workbench.Text.lines_injective` — a text is determined by its lines.
* `Workbench.Text.lines_append` — the lines behind a text that does not end within a line.
* `Workbench.Text.exists_lines_eq_cons` — how a line is read that may not be read as it is written.
* `Workbench.Text.exists_lines_append_eq_cons` — how the first line of a text goes on behind its start.
-/

namespace Workbench.Text

/-- A line that is read back as it is when it stands in a text. -/
structure Line.IsProper (line : Line) : Prop where
  /-- The content ends no line. -/
  noLineFeed : '\n' ∉ line.content
  /-- The content takes no part in the ending. -/
  noReturn : line.ending = .lineFeed → line.content.getLast? ≠ some '\r'
  /-- Where the text ends, there is a line only if something stands on it. -/
  notEmpty : line.ending = .absent → line.content ≠ []

/-- The lists of lines of texts: every line is proper, and only the last one may have no ending. -/
def AreLines : List Line → Prop
  | [] => True
  | line :: rest => line.IsProper ∧ (line.ending = .absent → rest = []) ∧ AreLines rest

/-! ### Cutting a text into lines -/

/-- A character that ends no line is put in front of the first line. -/
lemma lines_cons_eq {c : Char} {cs : List Char} (hc : c ≠ '\n') (hr : c = '\r' → cs.head? ≠ some '\n') :
    lines (c :: cs) = prependToFirst c (lines cs) :=
  lines.eq_4 c cs (fun _ hreturn hfeed => hr hreturn (congrArg List.head? hfeed)) fun hfeed => hc hfeed

/-- A text whose first line is empty and ends with a line feed starts with that line feed. -/
private lemma eq_cons_of_lines_eq {cs : List Char} {rest : List Line}
    (h : lines cs = ⟨[], .lineFeed⟩ :: rest) : cs = '\n' :: unlines rest := by
  have hcs := unlines_lines cs
  rw [h] at hcs
  simpa [unlines, Line.chars, Ending.chars] using hcs.symm

/-- A character that ends no line can be put in front of the lines of a text. -/
private lemma areLines_prependToFirst {c : Char} {cs : List Char} (hc : c ≠ '\n')
    (hr : ∀ rest, c = '\r' → cs ≠ '\n' :: rest) (h : AreLines (lines cs)) :
    AreLines (prependToFirst c (lines cs)) := by
  cases hl : lines cs with
  | nil =>
    refine ⟨⟨?_, ?_, ?_⟩, fun _ => rfl, trivial⟩ <;> simp [Ne.symm hc]
  | cons line rest =>
    obtain ⟨content, ending⟩ := line
    rw [hl] at h
    obtain ⟨hline, hlast, hrest⟩ := h
    refine ⟨⟨?_, ?_, ?_⟩, hlast, hrest⟩
    · simpa [Ne.symm hc] using hline.noLineFeed
    · intro he
      have he' : ending = .lineFeed := he
      subst he'
      cases content with
      | nil =>
        -- the text goes on with a line feed, which would have taken `c` into its ending
        intro hlast
        have hcr : c = '\r' := by simpa using hlast
        exact hr _ hcr (eq_cons_of_lines_eq hl)
      | cons d ds => simpa using hline.noReturn rfl
    · simp

/-- The lines of a text are a list of lines of a text. -/
theorem areLines_lines (cs : List Char) : AreLines (lines cs) := by
  fun_induction lines cs with
  | case1 => trivial
  | case2 rest ih =>
    exact ⟨⟨by simp, by simp, by simp⟩, by simp, ih⟩
  | case3 rest ih =>
    exact ⟨⟨by simp, by simp, by simp⟩, by simp, ih⟩
  | case4 c rest hcrlf hlf ih =>
    refine areLines_prependToFirst (fun hc => hlf hc) (fun r hc hcs => ?_) ih
    exact hcrlf r hc hcs

/-! ### Putting lines together -/

/-- The first line of a text that starts with a proper line is that line.

**Proof sketch.** Induction on the content. Without a content the ending comes first, and there is
one, since the line would be empty otherwise. A first character of the content is no line feed, and
it is no carriage return before a line feed, so it is put in front of the lines that follow. -/
private lemma lines_chars_append {content : List Char} {ending : Ending} {cs : List Char}
    (h : Line.IsProper ⟨content, ending⟩) (hlast : ending = .absent → cs = []) :
    lines (content ++ ending.chars ++ cs) = ⟨content, ending⟩ :: lines cs := by
  induction content with
  | nil =>
    cases ending with
    | lineFeed => simp [Ending.chars, lines]
    | carriageReturnLineFeed => simp [Ending.chars, lines]
    | absent => exact absurd rfl (h.notEmpty rfl)
  | cons c content ih =>
    have hc : c ≠ '\n' := fun he => h.noLineFeed (by simp [he])
    have hstep : lines (c :: (content ++ ending.chars ++ cs)) =
        prependToFirst c (lines (content ++ ending.chars ++ cs)) := by
      refine lines_cons_eq hc fun hcr he => ?_
      cases content with
      | nil =>
        cases ending with
        | lineFeed => exact h.noReturn rfl (by simp [hcr])
        | carriageReturnLineFeed => simp [Ending.chars] at he
        | absent => simp [Ending.chars, hlast rfl] at he
      | cons d ds =>
        have hd : d = '\n' := by simpa using he
        exact h.noLineFeed (by simp [hd])
    by_cases hend : content = [] ∧ ending = .absent
    · obtain ⟨rfl, rfl⟩ := hend
      rw [List.cons_append, List.cons_append, hstep, hlast rfl]
      simp [Ending.chars, lines, prependToFirst]
    · have hproper : Line.IsProper ⟨content, ending⟩ := by
        refine ⟨fun hm => h.noLineFeed (by simp_all), fun he => ?_, fun he hn => hend ⟨hn, he⟩⟩
        have hlf := h.noReturn he
        cases content with
        | nil => simp
        | cons d ds => simpa using hlf
      rw [List.cons_append, List.cons_append, hstep, ih hproper]
      rfl

/-- A list of lines of a text is the list of lines of the text that it makes up. -/
theorem lines_unlines {ls : List Line} (h : AreLines ls) : lines (unlines ls) = ls := by
  induction ls with
  | nil => rfl
  | cons line rest ih =>
    obtain ⟨hline, hlast, hrest⟩ := h
    have hnil : line.ending = .absent → unlines rest = [] := by
      intro he
      rw [hlast he]
      rfl
    have hcons : unlines (line :: rest) = line.content ++ line.ending.chars ++ unlines rest := by
      simp [unlines, Line.chars]
    rw [hcons, lines_chars_append hline hnil, ih hrest]

/-- The lists of lines of texts are those that survive being put together and cut again. -/
lemma lines_unlines_iff {ls : List Line} : lines (unlines ls) = ls ↔ AreLines ls := by
  constructor
  · intro h
    rw [← h]
    exact areLines_lines _
  · exact lines_unlines

/-- A text is determined by its lines. -/
theorem lines_injective : Function.Injective lines := by
  intro a b h
  rw [← unlines_lines a, h, unlines_lines]

/-! ### Texts one behind the other -/

/-- A text that does not end within a line: it is empty or ends with a line feed. -/
def IsWhole (cs : List Char) : Prop := cs = [] ∨ cs.getLast? = some '\n'

/-- The text of lines starts with the first of them. -/
lemma unlines_cons (line : Line) (ls : List Line) : unlines (line :: ls) = line.chars ++ unlines ls := rfl

/-- The text of lines one behind the other. -/
lemma unlines_append (ls ls' : List Line) : unlines (ls ++ ls') = unlines ls ++ unlines ls' :=
  List.flatMap_append

/-- Before another line of a text every line has an ending. -/
lemma areLines_append_cons_iff {ls rest : List Line} {line : Line} :
    AreLines (ls ++ line :: rest) ↔
      AreLines ls ∧ (∀ other ∈ ls, other.ending ≠ .absent) ∧ AreLines (line :: rest) := by
  induction ls with
  | nil => simp [AreLines]
  | cons first ls ih =>
    simp only [List.cons_append, AreLines, List.forall_mem_cons] at ih ⊢
    rw [ih]
    constructor
    · rintro ⟨hfirst, hlast, hls, hends, hrest⟩
      have hend : first.ending ≠ .absent := fun ha => by simpa using hlast ha
      exact ⟨⟨hfirst, fun ha => absurd ha hend, hls⟩, ⟨hend, hends⟩, hrest⟩
    · rintro ⟨⟨hfirst, -, hls⟩, ⟨hend, hends⟩, hrest⟩
      exact ⟨hfirst, fun ha => absurd ha hend, hls, hends, hrest⟩

/-- Lines that all have an ending do not end within a line. -/
lemma isWhole_unlines {ls : List Line} (h : ∀ line ∈ ls, line.ending ≠ .absent) :
    IsWhole (unlines ls) := by
  induction ls with
  | nil => exact .inl rfl
  | cons line rest ih =>
    obtain ⟨hline, hrest⟩ := List.forall_mem_cons.1 h
    refine .inr ?_
    have hcons : unlines (line :: rest) = line.content ++ (line.ending.chars ++ unlines rest) := by
      simp [unlines, Line.chars]
    rw [hcons]
    rcases ih hrest with hnil | hlast
    · rw [hnil, List.append_nil]
      cases he : line.ending with
      | absent => exact absurd he hline
      | lineFeed => simp [Ending.chars]
      | carriageReturnLineFeed => simp [Ending.chars]
    · rw [List.getLast?_append, List.getLast?_append, hlast]
      rfl

/-- A text that does not end within a line has no line without an ending.

**Proof sketch.** Such a line would be the last one. It is not empty and holds no line feed, so the text
would end with another character. -/
lemma ending_ne_absent_of_isWhole {cs : List Char} (h : IsWhole cs) :
    ∀ line ∈ lines cs, line.ending ≠ .absent := by
  intro line hm habsent
  obtain ⟨front, rest, hlines⟩ := List.append_of_mem hm
  have hare := areLines_lines cs
  rw [hlines] at hare
  obtain ⟨-, -, hline, hlast, -⟩ := areLines_append_cons_iff.1 hare
  have hne : line.content ≠ [] := hline.notEmpty habsent
  have hcs : cs = unlines front ++ line.content := by
    rw [← unlines_lines cs, hlines, hlast habsent, unlines_append]
    simp [unlines, Line.chars, habsent, Ending.chars]
  rcases h with rfl | hfeed
  · exact hne (List.append_eq_nil_iff.1 hcs.symm).2
  · rw [hcs, List.getLast?_append_of_ne_nil _ hne] at hfeed
    exact hline.noLineFeed (List.mem_of_getLast? hfeed)

/-- **The lines behind a text that does not end within a line** are read as on their own. -/
theorem lines_append {cs : List Char} (h : IsWhole cs) (rest : List Char) :
    lines (cs ++ rest) = lines cs ++ lines rest := by
  have hare : AreLines (lines cs ++ lines rest) := by
    cases hrest : lines rest with
    | nil =>
      rw [List.append_nil]
      exact areLines_lines cs
    | cons line behind =>
      refine areLines_append_cons_iff.2 ⟨areLines_lines cs, ending_ne_absent_of_isWhole h, ?_⟩
      rw [← hrest]
      exact areLines_lines rest
  rw [← lines_unlines hare, unlines_append, unlines_lines, unlines_lines]

/-- A proper line in front of a text is read as it is written. -/
lemma lines_chars_append_of_isProper {line : Line} (h : line.IsProper) {rest : List Char}
    (hlast : line.ending = .absent → rest = []) : lines (line.chars ++ rest) = line :: lines rest :=
  lines_chars_append h hlast

/-- **How a line is read whose content may join its ending.** A content that is not empty and holds no
line feed stands on one line, together with any ending; the content of this line is what is written, or
what is written without a carriage return at its end. -/
theorem exists_lines_eq_cons {content rest : List Char} {ending : Ending} (hfeed : '\n' ∉ content)
    (hne : content ≠ []) (hlast : ending = .absent → rest = []) :
    ∃ line, lines (content ++ ending.chars ++ rest) = line :: lines rest ∧
      line.chars = content ++ ending.chars ∧ line.content <+: content := by
  by_cases hjoin : ending = .lineFeed ∧ content.getLast? = some '\r'
  · obtain ⟨rfl, hreturn⟩ := hjoin
    obtain ⟨front, rfl⟩ := List.getLast?_eq_some_iff.1 hreturn
    let line : Line := ⟨front, .carriageReturnLineFeed⟩
    have hproper : line.IsProper := ⟨fun hm => hfeed (List.mem_append_left _ hm), by simp [line], by simp [line]⟩
    have hchars : line.chars = front ++ ['\r'] ++ Ending.lineFeed.chars := by
      simp [line, Line.chars, Ending.chars]
    refine ⟨line, ?_, hchars, List.prefix_append front ['\r']⟩
    rw [← hchars]
    exact lines_chars_append_of_isProper hproper (by simp [line])
  · have hproper : Line.IsProper ⟨content, ending⟩ :=
      ⟨hfeed, fun he hr => hjoin ⟨he, hr⟩, fun _ => hne⟩
    exact ⟨⟨content, ending⟩, lines_chars_append_of_isProper hproper hlast, rfl,
      List.prefix_refl content⟩

/-! ### Texts that start within a line -/

/-- What stands on the first line of a text: its content, or nothing if the text is empty. -/
def firstContent (cs : List Char) : List Char := (lines cs).head?.elim [] Line.content

/-- **The first line of a text goes on with what stands behind its start**, if the start is not empty,
holds no line feed and does not end with a carriage return. -/
theorem exists_lines_append_eq_cons {start : List Char} (hne : start ≠ []) (hfeed : '\n' ∉ start)
    (hreturn : start.getLast? ≠ some '\r') (rest : List Char) :
    ∃ line behind, lines (start ++ rest) = line :: behind ∧ line.content = start ++ firstContent rest := by
  induction start with
  | nil => exact absurd rfl hne
  | cons c start ih =>
    obtain ⟨hc, hfeed⟩ : '\n' ≠ c ∧ '\n' ∉ start := by simpa using hfeed
    cases start with
    | nil =>
      have hcr : c ≠ '\r' := by simpa using hreturn
      rw [List.cons_append, List.nil_append, lines_cons_eq hc.symm fun h => absurd h hcr, firstContent]
      cases lines rest with
      | nil => exact ⟨⟨[c], .absent⟩, [], rfl, rfl⟩
      | cons line behind => exact ⟨{ line with content := c :: line.content }, behind, rfl, rfl⟩
    | cons d start =>
      have hd : d ≠ '\n' := fun h => hfeed (by simp [h])
      obtain ⟨line, behind, hlines, hcontent⟩ := ih (by simp) hfeed (by simpa using hreturn)
      rw [List.cons_append, lines_cons_eq hc.symm fun _ => by simpa using hd, hlines]
      exact ⟨_, _, rfl, congrArg (c :: ·) hcontent⟩

/-- What stands on the first line of a text that starts within a line. -/
lemma firstContent_append {start : List Char} (hne : start ≠ []) (hfeed : '\n' ∉ start)
    (hreturn : start.getLast? ≠ some '\r') (rest : List Char) :
    firstContent (start ++ rest) = start ++ firstContent rest := by
  obtain ⟨line, behind, hlines, hcontent⟩ := exists_lines_append_eq_cons hne hfeed hreturn rest
  rw [firstContent, hlines]
  exact hcontent

/-- Nothing stands in front of the ending of a line. -/
lemma firstContent_chars_append {ending : Ending} {rest : List Char}
    (hlast : ending = .absent → rest = []) : firstContent (ending.chars ++ rest) = [] := by
  cases ending with
  | lineFeed => simp [Ending.chars, firstContent, lines]
  | carriageReturnLineFeed => simp [Ending.chars, firstContent, lines]
  | absent => simp [Ending.chars, firstContent, lines, hlast rfl]

end Workbench.Text
