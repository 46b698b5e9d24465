import Workbench.Log
import Workbench.Log.Pattern
import Workbench.Text.Blank
import Workbench.Text.Fields
import Workbench.Text.Octets

set_option autoImplicit false

/-!
# Directives

A directive says up to which level events are shown. It may be limited to the components whose names
start with a given text, to what happens inside a named span, and to events with a field, perhaps of
a value that matches a pattern: `target[span\x7bfield=pattern\x7d]=level`.

## Main definitions

* `Workbench.Directive` — what is shown of what.
* `Workbench.Directive.Flaw` — why a text is no directive.
* `Workbench.Directive.read` — the directive that a text is written for.
* `Workbench.Directive.concerns` — whether a directive speaks about the events of a component.
* `Workbench.Directive.closeness` — how closely it does.

## Design

Blanks around a directive are passed over when its parts are told apart, but not when they are cut out
of the text: places are counted without the blanks in front, and the parts are taken from the text as
it is. So a blank in front moves every part, and one at the end belongs to the last part. Places are
counted in octets, and a wide blank moves the parts farther than a narrow one. A part that would then
begin or end inside a character cannot be cut out, and reading breaks off at the first of them.
-/

namespace Workbench

/-- A field that an event or a span must have. -/
structure FieldFilter where
  name : List Char
  /-- What its value must match. -/
  pattern : Option (List Char)
  deriving DecidableEq, Repr

/-- Up to which rank some events are shown. -/
structure Directive where
  /-- What the names of the components start with; absent for all components. -/
  target : Option (List Char)
  /-- The name of the span that events must be inside of. -/
  span : Option (List Char) := none
  /-- The field that must be there. -/
  field : Option FieldFilter := none
  /-- The greatest rank that is shown; zero for none. -/
  threshold : Nat
  deriving DecidableEq, Repr

namespace Directive

/-! ### Levels -/

/-- The ranks by name. -/
def ranks : List (String × Nat) :=
  [("off", 0), ("error", 1), ("warn", 2), ("info", 3), ("debug", 4), ("trace", 5)]

/-- The rank that a word names, by its number or by its name in either case. -/
def rank? (word : List Char) : Option Nat :=
  match Text.readWord 10 5 word with
  | .ok n => some n
  | .error _ => ranks.lookup (String.ofList word).toLower

/-- The rank that shows everything. -/
def everything : Nat := 5

/-- The threshold after an equals sign; everything is shown if there is no word. -/
def threshold? (word : List Char) : Option Nat :=
  if word.isEmpty then some everything else rank? word

/-! ### Places -/

/-- The character at a place. -/
def at? (body : List Char) (place : Nat) : Option Char := (Text.dropOctets place body).head?

/-- The first place of a character of a kind, from a place on. -/
def place? (kind : Char → Bool) (body : List Char) (start : Nat) : Option Nat :=
  let rest := Text.dropOctets start body
  if rest.any kind then some (start + Text.octetCount (rest.takeWhile fun c => !kind c)) else none

/-! ### Parts -/

/-- Why a text is no directive. -/
inductive Flaw where
  /-- It is not written as a directive. -/
  | malformed
  /-- A part of it would begin or end inside a character, so that reading it breaks off. -/
  | splitCharacter
  deriving DecidableEq, Repr

/-- What must be there, with the flaw of a text that lacks it. -/
def demand {α : Type} (flaw : Flaw) : Option α → Except Flaw α
  | some a => .ok a
  | none => .error flaw

/-- The part of a text from a place on. -/
def cutFrom (text : List Char) (start : Nat) : Except Flaw (List Char) := do
  let (_, part) ← demand .splitCharacter (Text.cutAt? start text)
  return part

/-- The part of a text between two places. -/
def cut (text : List Char) (start stop : Nat) : Except Flaw (List Char) := do
  let (front, _) ← demand .splitCharacter (Text.cutAt? stop text)
  cutFrom front start

/-! ### Reading -/

/-- A field with an optional pattern after an equals sign. -/
def fieldFilter? (text : List Char) : Option FieldFilter :=
  if text.isEmpty then none
  else
    match Text.fields (· == '=') text with
    | name :: pattern :: _ =>
      if Pattern.isPattern pattern then some { name, pattern := some pattern } else none
    | _ => some { name := text, pattern := none }

/-- The threshold in the part of a text from a place on. -/
def thresholdFrom (text : List Char) (start : Nat) : Except Flaw Nat := do
  demand .malformed (threshold? (← cutFrom text start))

/-- The end of a directive after a closing square bracket: nothing, or an equals sign and a
threshold. -/
def afterBracket (text body : List Char) (start : Nat) (directive : Directive) :
    Except Flaw Directive := do
  match at? body start with
  | none => return directive
  | some c =>
    if c = '=' then return { directive with threshold := ← thresholdFrom text (start + 1) }
    else .error .malformed

/-- A directive after an opening square bracket: a name, a field in braces, or both. -/
def inBrackets (text body : List Char) (start : Nat) (target : Option (List Char)) :
    Except Flaw Directive := do
  let i ← demand .malformed (place? (fun c => c == ']' || c == '\x7b') body start)
  let name ← cut text start i
  if at? body i = some ']' then
    afterBracket text body (i + 1) { target, span := some name, threshold := everything }
  else
    let j ← demand .malformed (place? (· == '\x7d') body (i + 1))
    let field ← demand .malformed (fieldFilter? (← cut text (i + 1) j))
    if at? body (j + 1) = some ']' then
      afterBracket text body (j + 2)
        { target
          span := if name.isEmpty then none else some name
          field := some field
          threshold := everything }
    else .error .malformed

/-- A directive that does not start with a bracket: a level, or a target with what follows it. -/
def ofWord (text body : List Char) : Except Flaw Directive := do
  match place? (fun c => c == '=' || c == '[') body 0 with
  | none =>
    match rank? text with
    | some threshold => return { target := none, threshold }
    | none => return { target := some text, threshold := everything }
  | some i =>
    let target := some (← cut text 0 i)
    if at? body i = some '=' then return { target, threshold := ← thresholdFrom text (i + 1) }
    else inBrackets text body (i + 1) target

/-- Whether a character can begin a directive without a bracket. -/
def starts (c : Char) : Bool := ['-', ':', '_'].contains c || Text.isAlphanumeric c

/-- The directive that a text is written for. -/
def read (text : List Char) : Except Flaw Directive :=
  let body := Text.trim text
  match body with
  | [] => .error .malformed
  | c :: _ =>
    if c = '[' then inBrackets text body 1 none
    else if starts c then ofWord text body
    else .error .malformed

/-! ### Events -/

/-- Whether a directive speaks about the events of a component. All events are outside of spans, and
their only field is the message, whose value is not compared. -/
def concerns (directive : Directive) (component : String) : Bool :=
  directive.span.isNone
    && directive.field.all (fun field => field.name == "message".toList && field.pattern.isNone)
    && directive.target.all fun target => target.isPrefixOf component.toList

/-- How closely a directive looks at what it concerns: first by the length of its target, then by its
field. -/
def closeness (directive : Directive) : Nat :=
  2 * (directive.target.elim 0 fun target => target.length + 1) + directive.field.toList.length

end Directive

end Workbench
