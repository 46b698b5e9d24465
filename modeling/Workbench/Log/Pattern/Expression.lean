import Workbench.Log.Pattern.Class
import Workbench.Text.Alphanumeric

set_option autoImplicit false

/-!
# Regular expressions

Whether a text is a regular expression. What one matches is of no concern here.

## Main definitions

* `Workbench.Pattern.opening?` — what follows an opening parenthesis.
* `Workbench.Pattern.OpenGroup` — a group of which the end is not read yet.
* `Workbench.Pattern.State` — how far the reading of an expression has come.
* `Workbench.Pattern.isExpression` — whether a text is a regular expression.

## Design

An expression is read in one pass, with the groups that are open and the modes around them on a stack.
Of its pieces are kept how deep they are nested and whether they can be repeated, which a switch and
the start of an alternative cannot. No two groups have the same name. A brace counts repetitions, but
the closing one ends the field that the expression belongs to, so that none can be counted.
-/

namespace Workbench.Pattern

/-! ### Openings -/

/-- What an opening parenthesis starts. -/
inductive Opening where
  /-- A change of mode up to the end of the group around it. -/
  | change (mode : Mode)
  /-- A group, perhaps with a name. -/
  | group (mode : Mode) (name : Option (List Char))

/-- Whether a text is the name of a group. -/
def isGroupName : List Char → Bool
  | [] => false
  | c :: rest =>
    (c == '_' || Text.isAlphabetic c)
      && rest.all fun d => ['_', '.', '[', ']'].contains d || Text.isAlphanumeric d

/-- A group after the opening mark of its name. -/
def namedGroup? (mode : Mode) (cs : List Char) : Option (Opening × List Char) :=
  let name := cs.takeWhile (· != '>')
  match cs.dropWhile (· != '>') with
  | [] => none
  | _ :: rest => if isGroupName name then some (.group mode (some name), rest) else none

/-- What follows an opening parenthesis and a question mark with switches. -/
def switching? (mode : Mode) (cs : List Char) : Option (Opening × List Char) :=
  let ends (c : Char) : Bool := c == ')' || c == ':'
  let text := cs.takeWhile fun c => !ends c
  (mode.switch? text).bind fun inner =>
    match cs.dropWhile fun c => !ends c with
    | ':' :: rest => some (.group inner none, rest)
    | ')' :: rest => if text.isEmpty then none else some (.change inner, rest)
    | _ => none

/-- What follows an opening parenthesis. -/
def opening? (mode : Mode) (cs : List Char) : Option (Opening × List Char) :=
  match mode.skip cs with
  | '?' :: 'P' :: '<' :: rest => namedGroup? mode rest
  | '?' :: '<' :: rest => namedGroup? mode rest
  | '?' :: rest => switching? mode rest
  | rest => some (.group mode none, rest)

/-! ### Open groups -/

/-- A piece of an expression. -/
structure Piece where
  /-- How deep it is nested. -/
  nesting : Nat := 0
  /-- Whether it can be repeated. -/
  isRepeatable : Bool := true
  deriving DecidableEq, Repr

/-- A group of which the end is not read yet. -/
structure OpenGroup where
  /-- The nestings of the alternatives before the last one. -/
  alternatives : List Nat := []
  /-- The pieces of the last alternative, from the last to the first. -/
  pieces : List Piece := []
  deriving DecidableEq, Repr

namespace OpenGroup

/-- The group with one more piece. -/
def add (group : OpenGroup) (piece : Piece) : OpenGroup :=
  { group with pieces := piece :: group.pieces }

/-- The nesting of the last alternative. -/
def lastAlternative (group : OpenGroup) : Nat := together (group.pieces.map Piece.nesting)

/-- The group at the start of its next alternative. -/
def alternate (group : OpenGroup) : OpenGroup :=
  { alternatives := group.lastAlternative :: group.alternatives }

/-- The nesting of what the parentheses hold. -/
def content (group : OpenGroup) : Nat := together (group.lastAlternative :: group.alternatives)

/-- The group with its last piece repeated. -/
def repeated? (group : OpenGroup) : Option OpenGroup :=
  match group.pieces with
  | [] => none
  | piece :: before =>
    if piece.isRepeatable then
      some { group with pieces := { nesting := piece.nesting + 1 } :: before }
    else none

end OpenGroup

/-! ### Reading -/

/-- How far the reading of an expression has come. -/
structure State where
  mode : Mode := {}
  /-- The group that is being read, or the whole expression. -/
  inner : OpenGroup := {}
  /-- The groups around it with the modes before it, innermost first. -/
  outer : List (Mode × OpenGroup) := []
  /-- The names of the groups. -/
  names : List (List Char) := []

namespace State

/-- Goes on after a piece. -/
def add (state : State) (piece : Piece) : State := { state with inner := state.inner.add piece }

/-- Goes on after an opening parenthesis. -/
def enter? (state : State) : Opening → Option State
  | .change mode => some { state.add { isRepeatable := false } with mode }
  | .group mode name =>
    if name.any state.names.contains then none
    else
      some
        { mode
          inner := {}
          outer := (state.mode, state.inner) :: state.outer
          names := name.toList ++ state.names }

/-- Goes on after a closing parenthesis. -/
def leave? (state : State) : Option State :=
  match state.outer with
  | [] => none
  | (mode, around) :: outer =>
    some { state with mode, outer, inner := around.add { nesting := state.inner.content + 1 } }

/-- Goes on after a sign of repetition and a question mark that may follow it, which makes the
repetition a short one. -/
def repeat? (state : State) (rest : List Char) : Option (State × List Char) :=
  state.inner.repeated?.map fun inner =>
    ({ state with inner }, if rest.head? = some '?' then rest.drop 1 else rest)

/-- Goes on after a character of an expression. -/
def step? (state : State) (c : Char) (rest : List Char) : Option (State × List Char) :=
  match c with
  | '(' =>
    (opening? state.mode rest).bind fun (opening, last) => (state.enter? opening).map (·, last)
  | ')' => state.leave?.map (·, rest)
  | '|' => some ({ state with inner := state.inner.alternate }, rest)
  | '*' => state.repeat? rest
  | '+' => state.repeat? rest
  | '?' => state.repeat? rest
  | '\x7b' => none
  | '[' => (class? state.mode rest).map fun (nesting, last) => (state.add { nesting }, last)
  | '.' => if state.mode.unicode then some (state.add {}, rest) else none
  | '\\' =>
    (escape? state.mode rest).bind fun (escape, last) =>
      if escape.isAllowed state.mode then some (state.add {}, last) else none
  | _ => some (state.add {}, rest)

/-- Whether an expression can end here. -/
def isFinal (state : State) : Bool :=
  state.outer.isEmpty && state.inner.content ≤ mostNested

/-- Whether the rest of an expression can be read. -/
def reads (state : State) (cs : List Char) : Bool :=
  match cs with
  | [] => state.isFinal
  | c :: rest =>
    match state.step? c rest with
    | some (next, last) =>
      if last.length ≤ rest.length then next.reads (next.mode.skip last) else false
    | none => false
termination_by cs.length
decreasing_by
  refine Nat.lt_of_le_of_lt (next.mode.length_skip_le _) ?_
  simp only [List.length_cons]
  omega

end State

/-- Whether a text is a regular expression. -/
def isExpression (cs : List Char) : Bool := State.reads {} cs

end Workbench.Pattern
