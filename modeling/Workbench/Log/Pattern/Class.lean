import Workbench.Log.Pattern.Escape
import Workbench.Log.Pattern.Nesting

set_option autoImplicit false

/-!
# Classes of expressions

A class is a set of characters in square brackets: characters, ranges, sets with a name and other
classes, perhaps with operators between them. `[^` starts the class of all other characters.

## Main definitions

* `Workbench.Pattern.OpenClass` — a class of which the end is not read yet.
* `Workbench.Pattern.class?` — the nesting of the class after an opening square bracket.

## Design

A class is read in one pass, with the classes that are open around it on a stack. Of what a class
holds only the nesting is kept. An operator combines all that stands before it in its class with what
stands up to the next operator or the end, so that a chain of operators is nested as deep as it is
long. Hyphens at the start of a class stand for themselves, and so does a closing bracket there.
-/

namespace Workbench.Pattern

/-! ### Members -/

/-- What an escape adds to a class: a character by its code, or a set, which has none. A place is
nothing that a class can hold. -/
def Escape.member? : Escape → Option (Option Nat)
  | character n => some (some n)
  | octet n => some (some n)
  | place _ => none
  | kind _ => some none
  | category => some none

/-- A part of a class: a character by its code, or a set. -/
def classItem? (mode : Mode) : List Char → Option (Option Nat × List Char)
  | [] => none
  | '\\' :: rest =>
    match escape? mode rest with
    | some (escape, last) =>
      match escape.member? with
      | some member =>
        if escape.isAllowed mode && (mode.unicode || member.all (· < 0x80)) then
          some (member, last)
        else none
      | none => none
    | none => none
  | c :: rest => if mode.unicode || c.toNat < 0x80 then some (some c.toNat, rest) else none

/-- What follows one character of a class, or a range of characters. -/
def classRange? (mode : Mode) (cs : List Char) : Option (List Char) := do
  let (first, rest) ← classItem? mode cs
  match mode.skip rest with
  | '-' :: more =>
    if mode.ahead? more = some ']' ∨ mode.ahead? more = some '-' then pure ('-' :: more)
    else
      let (last, rest) ← classItem? mode (mode.skip more)
      if (← first) ≤ (← last) then pure rest else none
  | rest => pure rest

/-- The sets of ASCII characters that have a name. -/
def namedSets : List String :=
  ["alnum", "alpha", "ascii", "blank", "cntrl", "digit", "graph", "lower", "print", "punct", "space",
    "upper", "word", "xdigit"]

/-- What follows a named set in a class, after its opening bracket, and whether it is negated. -/
def namedSet? : List Char → Option (Bool × List Char)
  | ':' :: rest =>
    let body := if rest.head? = some '^' then rest.drop 1 else rest
    match body.dropWhile (· != ':') with
    | ':' :: ']' :: last =>
      if namedSets.contains (String.ofList (body.takeWhile (· != ':'))) then
        some (rest.head? = some '^', last)
      else none
    | _ => none
  | _ => none

/-! ### Open classes -/

/-- A class of which the end is not read yet. -/
structure OpenClass where
  /-- Nothing but hyphens was read yet. -/
  isFresh : Bool := true
  /-- The nesting of what stands before the last operator. -/
  left : Option Nat := none
  /-- The nestings of the members after it. -/
  members : List Nat := []
  deriving DecidableEq, Repr

namespace OpenClass

/-- The class with one more member. -/
def add (cls : OpenClass) (nesting : Nat) : OpenClass :=
  { cls with isFresh := false, members := nesting :: cls.members }

/-- The nesting of what the brackets hold. -/
def content (cls : OpenClass) : Nat :=
  match cls.left with
  | none => together cls.members
  | some left => max left (together cls.members) + 1

/-- The class after an operator. -/
def combine (cls : OpenClass) : OpenClass := { isFresh := false, left := some cls.content }

/-- The nesting of the whole class. -/
def nesting (cls : OpenClass) : Nat := cls.content + 1

/-- Whether a character stands for itself because the class starts with it. -/
def startsWith (cls : OpenClass) (c : Char) : Bool :=
  cls.isFresh && (c == '-' || c == ']' && cls.members.isEmpty)

/-- The class after a character that stands for itself at its start. -/
def begin (cls : OpenClass) (c : Char) : OpenClass := { cls.add 0 with isFresh := c == '-' }

end OpenClass

/-! ### Reading -/

/-- What follows a caret at the start of a class, or the start. -/
def classStart? (mode : Mode) (cs : List Char) : Option (List Char) :=
  match mode.skip cs with
  | '^' :: rest => if mode.unicode then some (mode.skip rest) else none
  | rest => some rest

/-- The open classes, innermost first, after a part of the innermost that is not its end, with what
follows the part. -/
def classStep? (mode : Mode) (inner : OpenClass) (outer : List OpenClass) :
    List Char → Option (OpenClass × List OpenClass × List Char)
  | '[' :: rest =>
    match namedSet? rest with
    | some (isNegated, last) =>
      if isNegated && !mode.unicode then none else some (inner.add 0, outer, last)
    | none => (classStart? mode rest).map ({}, inner :: outer, ·)
  | '&' :: '&' :: rest => some (inner.combine, outer, rest)
  | '-' :: '-' :: rest => some (inner.combine, outer, rest)
  | '~' :: '~' :: rest => some (inner.combine, outer, rest)
  | cs => (classRange? mode cs).map (inner.add 0, outer, ·)

/-- The nesting of the outermost open class, and what follows it. -/
def classEnd? (mode : Mode) (inner : OpenClass) (outer : List OpenClass) (cs : List Char) :
    Option (Nat × List Char) :=
  match cs with
  | [] => none
  | c :: rest =>
    if inner.startsWith c then classEnd? mode (inner.begin c) outer (mode.skip rest)
    else if c = ']' then
      match outer with
      | [] => some (inner.nesting, rest)
      | around :: more => classEnd? mode (around.add inner.nesting) more (mode.skip rest)
    else
      match classStep? mode inner outer (c :: rest) with
      | some (inner, outer, last) =>
        if last.length ≤ rest.length then classEnd? mode inner outer (mode.skip last) else none
      | none => none
termination_by cs.length
decreasing_by
  all_goals
    refine Nat.lt_of_le_of_lt (mode.length_skip_le _) ?_
    simp only [List.length_cons]
    omega

/-- The nesting of the class after an opening square bracket, and what follows it. -/
def class? (mode : Mode) (cs : List Char) : Option (Nat × List Char) :=
  (classStart? mode cs).bind (classEnd? mode {} [])

end Workbench.Pattern
