set_option autoImplicit false

/-!
# Targets

A target names a version line: the file it is in, the text that it starts with, and how the version
follows that text.

## Main definitions

* `Workbench.Style` — with quotation marks or without.
* `Workbench.Target` — a version line of a file.
* `Workbench.Target.line` — the line for a version.
* `Workbench.Target.builtin` — the targets used where none are given.
-/

namespace Workbench

/-- How a version is written into a line. -/
inductive Style where
  /-- Between quotation marks. -/
  | quoted
  /-- As it is. -/
  | bare
  deriving DecidableEq, Repr

/-- A version line of a file. -/
structure Target where
  path : String
  /-- What the line starts with. -/
  lead : String
  style : Style
  /-- What follows the version. -/
  tail : Option String
  deriving DecidableEq, Repr

/-- A version in a style. -/
def Style.write (style : Style) (version : String) : String :=
  match style with
  | quoted => "\"" ++ version ++ "\""
  | bare => version

namespace Target

/-- The line for a version, without its ending. -/
def line (target : Target) (version : String) : String :=
  target.lead ++ target.style.write version ++ target.tail.getD ""

/-- The release files whose version lines are changed where no targets are given. -/
def builtin : List Target :=
  [ { path := "release_building/installer.nsi"
      lead := "!define VERSION "
      style := .quoted
      tail := none },
    { path := "release_building/win.bat"
      lead := "set \"_VERSION_="
      style := .bare
      tail := some "\"" } ]

end Target

end Workbench
