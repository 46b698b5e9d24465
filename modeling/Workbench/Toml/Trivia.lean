set_option autoImplicit false

/-!
# Spaces, line breaks and comments

What stands between the parts of a document. A comment runs from its mark to the end of the line and
holds no control characters; a line ends with a line feed, which a carriage return may come before.

## Main definitions

* `Workbench.Toml.Reader` — reading something off the front of a text.
* `Workbench.Toml.skipSpaces`, `Workbench.Toml.skipTrivia` — skipping on a line and across lines.
* `Workbench.Toml.endOfLine?` — the end of the line of a statement.
-/

namespace Workbench.Toml

/-- Reads something off the front of a text; answers it with the rest of the text. -/
abbrev Reader (α : Type) := List Char → Option (α × List Char)

/-- Spaces and tabs. -/
def isSpace (c : Char) : Bool := c == ' ' || c == '\t'

/-- The characters that comments and literal texts may hold: no control characters but the tab. -/
def isPlain (c : Char) : Bool := c == '\t' || (0x20 ≤ c.toNat && c.toNat != 0x7F)

/-- Skips spaces. -/
def skipSpaces (cs : List Char) : List Char := cs.dropWhile isSpace

/-- The text after a line break. -/
def lineBreak? : List Char → Option (List Char)
  | '\n' :: rest => some rest
  | '\r' :: '\n' :: rest => some rest
  | _ => none

/-- Skips a comment up to the end of its line, or to a character that may not stand in it. -/
def skipComment : List Char → List Char
  | '#' :: rest => rest.dropWhile isPlain
  | cs => cs

/-- Skips the end of a line: spaces, perhaps a comment, and the line break or the end of the text. -/
def endOfLine? (cs : List Char) : Option (List Char) :=
  match skipComment (skipSpaces cs) with
  | [] => some []
  | rest => lineBreak? rest

/-- Skips spaces, line breaks and comments, starting inside a comment if `inComment` holds. A
character that may not stand in a comment is not skipped. -/
def skipTrivia (inComment : Bool) : List Char → List Char
  | [] => []
  | '\n' :: rest => skipTrivia false rest
  | '\r' :: '\n' :: rest => skipTrivia false rest
  | c :: rest =>
    if inComment then if isPlain c then skipTrivia true rest else c :: rest
    else if isSpace c then skipTrivia false rest
    else if c = '#' then skipTrivia true rest
    else c :: rest

/-- Reads one given character. -/
def expect? (c : Char) : List Char → Option (List Char)
  | d :: rest => if d = c then some rest else none
  | [] => none

end Workbench.Toml
