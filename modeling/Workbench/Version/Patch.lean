import Workbench.Text.Line
import Workbench.Version.Target

set_option autoImplicit false

/-!
# Patching a text

Patching writes a version into a text: the first line that starts as the target says becomes the
target's line for the version and keeps its ending. Everything else stays.

## Main definitions

* `Workbench.Outcome` — what became of the version line.
* `Workbench.replaceFirst` — lines with the first one of a kind replaced.
* `Workbench.Target.patch` — the text and the outcome.
-/

namespace Workbench

/-- What became of a version line. -/
inductive Outcome where
  /-- The line was changed. -/
  | updated (line : String)
  /-- The line was already as it should be. -/
  | unchanged (line : String)
  /-- No line starts as the target says. -/
  | leadNotFound
  deriving DecidableEq, Repr

/-- Replaces the content of the first line that starts with `lead`. Answers the content that was
there and the lines after the replacement. -/
def replaceFirst (lead replacement : List Char) :
    List Text.Line → Option (List Char × List Text.Line)
  | [] => none
  | line :: lines =>
    if lead.isPrefixOf line.content then
      some (line.content, { line with content := replacement } :: lines)
    else
      (replaceFirst lead replacement lines).map fun (found, changed) => (found, line :: changed)

/-- Writes a version into a text. -/
def Target.patch (target : Target) (version text : String) : String × Outcome :=
  let replacement := target.line version
  match replaceFirst target.lead.toList replacement.toList (Text.lines text.toList) with
  | none => (text, .leadNotFound)
  | some (found, changed) =>
    if found = replacement.toList then (text, .unchanged replacement)
    else (String.ofList (Text.unlines changed), .updated replacement)

end Workbench
