import Workbench.Environment
import Workbench.Log.Directive

set_option autoImplicit false

/-!
# Filters of events

A filter decides which events are shown. It is written as directives between commas. Of the directives
that concern a component the one that looks closest counts, and of several that look equally close the
last one.

## Main definitions

* `Workbench.Filter` — directives.
* `Workbench.Filter.read` — the filter that a text is written for.
* `Workbench.Filter.shows` — whether an event is shown.
* `Workbench.Filter.Reader` — what reads filters.
* `Workbench.Filter.Reader.Answers` — readers that do not break off.
* `Workbench.Filter.chosen` — the filter of a run.

## Main results

* `Workbench.Filter.chosen_eq_none_iff` — there is no filter only where reading breaks off.

## Design

A filter without directives shows nothing. One directive that cannot be read makes the whole text
useless, and the first one with a flaw decides which. A text that is not written as a filter is passed
over, but where reading breaks off there is no filter at all, and the program stops. How filters are read
is up to a library, of which a run takes any answer.
-/

namespace Workbench

/-- Directives, in the order in which they were written. -/
abbrev Filter := List Directive

namespace Filter

/-- The filter that a text is written for. -/
def read (text : String) : Except Directive.Flaw Filter :=
  ((Text.fields (· == ',') text.toList).filter fun piece => !piece.isEmpty).mapM Directive.read

/-! ### Showing events -/

/-- The better of a directive and the best one before it. -/
def better (component : String) (best : Option Directive) (directive : Directive) :
    Option Directive :=
  if directive.concerns component then
    match best with
    | none => some directive
    | some other => if other.closeness ≤ directive.closeness then some directive else some other
  else best

/-- The greatest rank that is shown of a component. -/
def threshold (filter : Filter) (component : String) : Nat :=
  match filter.foldl (better component) none with
  | some directive => directive.threshold
  | none => 0

/-- Whether an event is shown. -/
def shows (filter : Filter) (event : Event) : Bool :=
  event.level.rank ≤ filter.threshold event.component.name

/-! ### The filter of a run -/

/-- The events of the library from information up. -/
def quiet : Filter := [{ target := some "rtos_tools".toList, threshold := 3 }]

/-- All events of the library but the finest, and those of the tools from information up. -/
def verbose : Filter :=
  [{ target := some "rtos_tools".toList, threshold := 4 }, { target := none, threshold := 3 }]

example : (read "rtos_tools=info").toOption = some quiet := by decide +kernel

/-- Reads the filter that a text is written for, or tells why there is none. -/
abbrev Reader := String → Except Directive.Flaw Filter

/-- A reader answers in an environment: the text that is to be read there, if there is one, gives a filter
or is found not to be written as one. -/
def Reader.Answers (reader : Reader) (environment : Environment) : Prop :=
  ∀ text, environment.get? "RUST_LOG" = some text → reader text ≠ .error .splitCharacter

/-- The filter by the choice of the user. -/
def byChoice (isVerbose : Bool) : Filter := if isVerbose then verbose else quiet

/-- The filter of a run: the one in the environment if it is written as one, or else by the choice of
the user. There is none if reading breaks off. -/
def chosen (reader : Reader) (environment : Environment) (isVerbose : Bool) : Option Filter :=
  match environment.get? "RUST_LOG" with
  | none => some (byChoice isVerbose)
  | some text =>
    match reader text with
    | .ok filter => some filter
    | .error .malformed => some (byChoice isVerbose)
    | .error .splitCharacter => none

/-- **There is no filter only where reading breaks off**, whatever the user has chosen. -/
theorem chosen_eq_none_iff {reader : Reader} {environment : Environment} {isVerbose : Bool} :
    chosen reader environment isVerbose = none ↔ ¬ reader.Answers environment := by
  unfold chosen Reader.Answers
  cases environment.get? "RUST_LOG" with
  | none => simp
  | some text =>
    cases hread : reader text with
    | ok filter => simp [hread]
    | error flaw => cases flaw <;> simp [hread]

end Filter

end Workbench
