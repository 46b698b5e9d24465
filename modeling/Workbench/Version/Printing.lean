import Workbench.Toml.Trivia
import Workbench.Version.Target
import Workbench.Text.Digit

set_option autoImplicit false

/-!
# Printing documents of targets

The document that names given targets: a table for each of them, in order, with its texts between
quotation marks. Quotation marks, backslashes and control characters are escaped.

## Main definitions

* `Workbench.Toml.escaped` — a character between quotation marks.
* `Workbench.Target.print` — the table of a target.
* `Workbench.printTargets` — the document of a list of targets.
-/

namespace Workbench

/-- A character between quotation marks. -/
def Toml.escaped (c : Char) : List Char :=
  if c = '"' then ['\\', '"']
  else if c = '\\' then ['\\', '\\']
  else if Toml.isPlain c && c != '\t' then [c]
  else '\\' :: 'u' :: Text.hexNumber 4 c.toNat

/-- A text between quotation marks. -/
def Toml.printText (s : String) : List Char := '"' :: s.toList.flatMap Toml.escaped ++ ['"']

/-- A line that gives a text to a key. -/
def Toml.printField (key : String) (value : String) : List Char :=
  key.toList ++ " = ".toList ++ Toml.printText value ++ ['\n']

/-- The name of a style. -/
def Style.name : Style → String
  | .quoted => "quoted"
  | .bare => "bare"

/-- The table of a target. A tail that is absent is left out. -/
def Target.print (target : Target) : List Char :=
  "[[targets]]\n".toList ++ Toml.printField "path" target.path
    ++ Toml.printField "prefix" target.lead ++ Toml.printField "style" target.style.name
    ++ (target.tail.map (Toml.printField "terminator")).getD []

/-- The document of a list of targets. -/
def printTargets (targets : List Target) : String := String.ofList (targets.flatMap Target.print)

end Workbench
