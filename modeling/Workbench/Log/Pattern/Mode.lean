import Workbench.Text.Blank

set_option autoImplicit false

/-!
# Modes of expressions

How a regular expression is understood depends on switches that it may turn on and off for the rest of
a group, or for a group as a whole. Two of them matter for its form: whether characters are those of
Unicode, and whether blanks and comments between its pieces are passed over.

## Main definitions

* `Workbench.Pattern.Mode` — how an expression is understood.
* `Workbench.Pattern.Mode.skip` — a text without the blanks and comments in front of it.
* `Workbench.Pattern.Mode.ahead?` — what is looked at behind a hyphen.
* `Workbench.Pattern.Mode.switch?` — a mode after switches.

## Main results

* `Workbench.Pattern.Mode.length_skip_le` — what is left is no longer than the text.
-/

namespace Workbench.Pattern

/-- How an expression is understood. -/
structure Mode where
  /-- Characters are those of Unicode, and not those of ASCII. -/
  unicode : Bool := true
  /-- Blanks and comments are passed over. -/
  verbose : Bool := false
  deriving DecidableEq, Repr

/-! ### Blanks and comments -/

/-- What follows blanks and comments. A comment runs from a number sign to the end of its line. -/
def afterComments (inComment : Bool) : List Char → List Char
  | [] => []
  | c :: rest =>
    if inComment then afterComments (c != '\n') rest
    else if Text.isBlank c then afterComments false rest
    else if c = '#' then afterComments true rest
    else c :: rest

/-- Comments only make a text shorter. -/
theorem length_afterComments_le (inComment : Bool) (cs : List Char) :
    (afterComments inComment cs).length ≤ cs.length := by
  induction cs generalizing inComment with
  | nil => simp [afterComments]
  | cons c rest ih =>
    have shorter (b : Bool) : (afterComments b rest).length ≤ (c :: rest).length :=
      Nat.le_succ_of_le (ih b)
    rw [afterComments]
    split
    · exact shorter _
    · split
      · exact shorter _
      · split
        · exact shorter _
        · exact Nat.le_refl _

namespace Mode

/-- A text without the blanks and comments in front of it, where they mean nothing. -/
def skip (mode : Mode) (cs : List Char) : List Char :=
  if mode.verbose then afterComments false cs else cs

/-- What is left is no longer than the text. -/
theorem length_skip_le (mode : Mode) (cs : List Char) : (mode.skip cs).length ≤ cs.length := by
  rw [skip]
  split
  · exact length_afterComments_le _ _
  · exact Nat.le_refl _

/-- The character that decides what a hyphen in front of a text means. Of a comment only the mark is
passed over here, and not its words. -/
def ahead? (mode : Mode) (cs : List Char) : Option Char :=
  if mode.verbose then
    match cs.dropWhile Text.isBlank with
    | '#' :: rest => rest.find? fun c => !Text.isBlank c
    | rest => rest.head?
  else cs.head?

/-! ### Switches -/

/-- The letters of the switches. -/
def switches : List Char := ['i', 'm', 's', 'U', 'u', 'R', 'x']

/-- The mode after switches: those before a hyphen are turned on, those after it off. Each switch may be
named once, and a hyphen needs a switch after it. -/
def switch? (mode : Mode) (text : List Char) : Option Mode :=
  let on := text.takeWhile (· != '-')
  let off := (text.dropWhile (· != '-')).drop 1
  let turned (letter : Char) (before : Bool) : Bool :=
    on.contains letter || before && !off.contains letter
  if (on ++ off).all switches.contains && decide (on ++ off).Nodup && text.getLast? != some '-' then
    some { unicode := turned 'u' mode.unicode, verbose := turned 'x' mode.verbose }
  else none

end Mode

end Workbench.Pattern
