set_option autoImplicit false

/-!
# Lines

A text is a sequence of lines, each with a content and an ending. A line ends at every line feed; a
carriage return directly before it belongs to the ending, any other one to the content. Only the last
line of a text may have no ending, and then it is not empty.

## Main definitions

* `Workbench.Text.Ending`, `Workbench.Text.Line` — a line.
* `Workbench.Text.lines` — the lines of a text.
* `Workbench.Text.unlines` — the text of lines.

## Main results

* `Workbench.Text.unlines_lines` — the lines of a text make it up.
-/

namespace Workbench.Text

/-- How a line ends. -/
inductive Ending where
  | lineFeed
  | carriageReturnLineFeed
  /-- The text ends here. -/
  | absent
  deriving DecidableEq, Repr

/-- The characters of an ending. -/
def Ending.chars : Ending → List Char
  | .lineFeed => ['\n']
  | .carriageReturnLineFeed => ['\r', '\n']
  | .absent => []

/-- A line. -/
structure Line where
  content : List Char
  ending : Ending
  deriving DecidableEq

/-- The characters of a line, ending included. -/
def Line.chars (line : Line) : List Char := line.content ++ line.ending.chars

/-- The lines when a character is put in front that ends no line. -/
def prependToFirst (c : Char) : List Line → List Line
  | [] => [{ content := [c], ending := .absent }]
  | line :: lines => { line with content := c :: line.content } :: lines

/-- The lines of a text. -/
def lines : List Char → List Line
  | [] => []
  | '\r' :: '\n' :: rest => { content := [], ending := .carriageReturnLineFeed } :: lines rest
  | '\n' :: rest => { content := [], ending := .lineFeed } :: lines rest
  | c :: rest => prependToFirst c (lines rest)

/-- The text of lines. -/
def unlines (ls : List Line) : List Char := ls.flatMap Line.chars

theorem unlines_prependToFirst (c : Char) (ls : List Line) :
    unlines (prependToFirst c ls) = c :: unlines ls := by
  cases ls <;> simp [prependToFirst, unlines, Line.chars, Ending.chars]

/-- The lines of a text make it up. -/
theorem unlines_lines (cs : List Char) : unlines (lines cs) = cs := by
  fun_induction lines cs with
  | case1 => rfl
  | case2 rest ih => simpa [unlines, Line.chars, Ending.chars] using ih
  | case3 rest ih => simpa [unlines, Line.chars, Ending.chars] using ih
  | case4 c rest _ _ ih => rw [unlines_prependToFirst, ih]

end Workbench.Text
