set_option autoImplicit false

/-!
# Environments

The environment of a program is a list of entries of the form `NAME=value`. A name stands for what
follows it and its equals sign in the first entry that starts so. References to names in a text are
replaced by their values in one pass from left to right.

## Main definitions

* `Workbench.Environment` — the entries.
* `Workbench.Environment.get?` — the value of a name.
* `Workbench.Environment.replaceReferences` — a text with other text in place of its references.
* `Workbench.Environment.substitute` — the same with the values of names.

## Design

A reference is a dollar sign with a name in braces. The name is everything up to the next closing
brace and is not empty. A name without a value keeps its reference, and a value that was put in is
not looked at again.
-/

namespace Workbench

/-- What a program knows from its surroundings. -/
structure Environment where
  entries : List String
  deriving DecidableEq, Repr

namespace Environment

/-- The environment of names with values. -/
def ofPairs (pairs : List (String × String)) : Environment :=
  { entries := pairs.map fun (name, value) => name ++ "=" ++ value }

/-- What follows `front` in `cs`, if `cs` starts with it. -/
def after? {α : Type} [BEq α] (front cs : List α) : Option (List α) :=
  if front.isPrefixOf cs then some (cs.drop front.length) else none

/-- The value of a name. -/
def get? (environment : Environment) (name : String) : Option String :=
  environment.entries.findSome? fun entry =>
    (after? (name.toList ++ ['=']) entry.toList).map String.ofList

/-- The reference to a name. -/
def reference (name : List Char) : List Char := '$' :: '\x7b' :: name ++ ['\x7d']

/-- What stands for a name in a text: its value, or the reference itself. -/
def insertion (environment : Environment) (name : List Char) : List Char :=
  match environment.get? (String.ofList name) with
  | some value => value.toList
  | none => reference name

/-- Whether a character is not the one that closes a reference. -/
def staysOpen (c : Char) : Bool := c != '\x7d'

/-- A text with its references replaced by what is inserted for their names. -/
def replaceReferences (insert : List Char → List Char) : List Char → List Char
  | [] => []
  | '$' :: '\x7b' :: rest =>
    match h : rest.dropWhile staysOpen with
    | [] => '$' :: '\x7b' :: rest
    | _ :: after =>
      if rest.takeWhile staysOpen = [] then '$' :: '\x7b' :: replaceReferences insert rest
      else
        have : after.length < rest.length := by
          have := (List.dropWhile_suffix staysOpen (l := rest)).length_le
          rw [h] at this
          simp at this
          omega
        insert (rest.takeWhile staysOpen) ++ replaceReferences insert after
  | c :: rest => c :: replaceReferences insert rest
termination_by cs => cs.length
decreasing_by all_goals (simp only [List.length_cons]; omega)

/-- A text with its references replaced by the values of their names. -/
def substitute (environment : Environment) (cs : List Char) : List Char :=
  replaceReferences environment.insertion cs

end Environment

end Workbench
