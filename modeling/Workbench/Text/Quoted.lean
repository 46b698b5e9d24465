import Workbench.Text.Digit
import Workbench.Text.Printable

set_option autoImplicit false

/-!
# Quoted text

A text between quotation marks, with everything escaped that could be mistaken or not be seen: the
quotation mark, the backslash, the four common controls by their letters, and every other character
that cannot be shown on its own by its number.

## Main definitions

* `Workbench.Text.escape` — the written form of a character between quotation marks.
* `Workbench.Text.quoted` — a text in quotation marks.
-/

namespace Workbench.Text

/-- The written form of a character between quotation marks. -/
def escape (c : Char) : List Char :=
  if c = '\x00' then ['\\', '0']
  else if c = '\t' then ['\\', 't']
  else if c = '\r' then ['\\', 'r']
  else if c = '\n' then ['\\', 'n']
  else if c = '\\' then ['\\', '\\']
  else if c = '"' then ['\\', '"']
  else if isPrintable c then [c]
  else ['\\', 'u', '\x7b'] ++ hexNumber 1 c.toNat ++ ['\x7d']

/-- A text in quotation marks. -/
def quoted (s : String) : String :=
  String.ofList ('"' :: s.toList.flatMap escape ++ ['"'])

/-- A text in quotation marks where there is one. -/
def quotedOption : Option String → String
  | some s => "Some(" ++ quoted s ++ ")"
  | none => "None"

end Workbench.Text
