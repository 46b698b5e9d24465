import Workbench.Text.Digit
import Workbench.Toml.Trivia

set_option autoImplicit false

/-!
# Moments

A moment is a date, a time of day, or both with an optional distance from universal time. Its parts
have fixed numbers of digits and must exist in the calendar; a minute may have a sixty-first second.

## Main definitions

* `Workbench.Toml.date?`, `Workbench.Toml.time?`, `Workbench.Toml.offset?` — the parts of a moment.
* `Workbench.Toml.isMoment` — whether a word is a moment.
-/

namespace Workbench.Toml

/-- A number of two digits. -/
def twoDigits? : Reader Nat
  | a :: b :: rest => do
    let high ← Text.digitValue? 10 a
    let low ← Text.digitValue? 10 b
    pure (10 * high + low, rest)
  | _ => none

/-- A number of two digits that is not too large. -/
def upTo? (greatest : Nat) (cs : List Char) : Option (List Char) := do
  let (n, rest) ← twoDigits? cs
  if n ≤ greatest then pure rest else none

/-! ### Dates -/

/-- Whether a year has a leap day. -/
def isLeap (year : Nat) : Bool := year % 4 == 0 && (year % 100 != 0 || year % 400 == 0)

/-- The number of days in a month of a year. -/
def daysIn (year month : Nat) : Nat :=
  if month = 2 then if isLeap year then 29 else 28
  else if month ∈ [4, 6, 9, 11] then 30
  else 31

/-- A date: year, month and day. -/
def date? (cs : List Char) : Option (List Char) := do
  let (century, cs) ← twoDigits? cs
  let (rest, cs) ← twoDigits? cs
  let (month, cs) ← twoDigits? (← expect? '-' cs)
  let (day, cs) ← twoDigits? (← expect? '-' cs)
  let year := 100 * century + rest
  if 1 ≤ month ∧ month ≤ 12 ∧ 1 ≤ day ∧ day ≤ daysIn year month then pure cs else none

/-! ### Times -/

/-- A fraction of a second, if there is one. -/
def skipFraction? : List Char → Option (List Char)
  | '.' :: c :: rest => if Text.isDecimal c then some (rest.dropWhile Text.isDecimal) else none
  | '.' :: [] => none
  | cs => some cs

/-- A time of day: hour, minute, and perhaps a second with a fraction. -/
def time? (cs : List Char) : Option (List Char) := do
  let cs ← upTo? 23 cs
  let cs ← upTo? 59 (← expect? ':' cs)
  match cs with
  | ':' :: rest => skipFraction? (← upTo? 60 rest)
  | _ => pure cs

/-- The distance from universal time, if there is one. -/
def offset? : List Char → Option (List Char)
  | 'Z' :: rest => some rest
  | 'z' :: rest => some rest
  | '+' :: rest => do upTo? 59 (← expect? ':' (← upTo? 23 rest))
  | '-' :: rest => do upTo? 59 (← expect? ':' (← upTo? 23 rest))
  | cs => some cs

/-! ### Moments -/

/-- Whether a character stands between a date and a time. -/
def joinsTime (c : Char) : Bool := c == 'T' || c == 't' || c == ' '

/-- What follows a date: nothing, or a time with an optional offset. -/
def timeAfterDate? : List Char → Option (List Char)
  | [] => some []
  | c :: rest => do if joinsTime c then offset? (← time? rest) else none

/-- Whether a word is a moment. -/
def isMoment (cs : List Char) : Bool :=
  ((date? cs).bind timeAfterDate?) == some [] || time? cs == some []

end Workbench.Toml
