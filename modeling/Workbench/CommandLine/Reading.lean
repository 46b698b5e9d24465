import Workbench.CommandLine.Interface

set_option autoImplicit false

/-!
# Reading arguments

Arguments are read from left to right. A parameter that takes a value is held back until it is known
what comes next; only then is it looked at, so that an argument that is not known at all is refused
before a parameter in front of it that lacks its value.

## Main definitions

* `Workbench.CommandLine.State` — what was read so far.
* `Workbench.CommandLine.Interface.step` — one argument.
* `Workbench.CommandLine.Interface.read` — all arguments.

## Design

After two hyphens on their own every argument is an operand. A single hyphen is a value or an
operand. The letters of switches may stand together after one hyphen; what follows the letter of a
parameter that takes a value is that value, without one equals sign in front.
-/

namespace Workbench.CommandLine

/-- What was read so far. -/
structure State where
  given : Given := []
  /-- What is held back: a parameter and its value, if it has one. -/
  held : Option (Parameter × Option String) := none
  /-- Whether the next argument can be the value of what is held back. -/
  awaits : Bool := false
  /-- Whether only operands follow. -/
  operandsOnly : Bool := false
  /-- Whether the operand was given. -/
  hasOperand : Bool := false

namespace State

/-- Takes a parameter with its value, or a switch without one. -/
def accept (state : State) (parameter : Parameter) (value : Option String) :
    Except Refusal State :=
  match parameter.role, value with
  | .help, _ => .error .helpWanted
  | .switch, _ =>
    if state.given.isOn parameter.name then .error .repeated
    else .ok { state with given := state.given ++ [(parameter.name, "")] }
  | .valued _, none => .error .missingValue
  | .valued accepts, some v =>
    if state.given.isOn parameter.name then .error .repeated
    else if accepts v then .ok { state with given := state.given ++ [(parameter.name, v)] }
    else .error .rejectedValue

/-- Takes what is held back. -/
def settle (state : State) : Except Refusal State :=
  match state.held with
  | none => .ok { state with awaits := false }
  | some (parameter, value) =>
    { state with held := none, awaits := false }.accept parameter value

/-- Takes what is held back, and then a parameter. -/
def react (state : State) (parameter : Parameter) (value : Option String) :
    Except Refusal State := do
  (← state.settle).accept parameter value

/-- Takes what is held back, and holds back a parameter until its value comes. -/
def hold (state : State) (parameter : Parameter) : Except Refusal State := do
  pure { ← state.settle with held := some (parameter, none), awaits := true }

end State

/-! ### Arguments -/

/-- Takes a parameter that may have a value attached to it. -/
def State.give (state : State) (parameter : Parameter) (attached : Option (List Char)) :
    Except Refusal State :=
  match parameter.role, attached with
  | .valued _, some v => state.react parameter (some (String.ofList v))
  | .valued _, none => state.hold parameter
  | _, some _ => .error .needlessValue
  | _, none => state.react parameter none

/-- What follows the first equals sign, if there is one. -/
def attachedValue? (cs : List Char) : Option (List Char) :=
  match cs.dropWhile (· != '=') with
  | [] => none
  | _ :: value => some value

/-- An argument after two hyphens. -/
def Interface.long (interface : Interface) (cs : List Char) (state : State) :
    Except Refusal State :=
  match interface.named? (cs.takeWhile (· != '=')) with
  | none => .error .unknownArgument
  | some parameter => state.give parameter (attachedValue? cs)

/-- The value that is written directly after a letter, if there is one. -/
def valueAfterLetter? : List Char → Option (List Char)
  | [] => none
  | '=' :: value => some value
  | value => some value

/-- The letters after one hyphen. -/
def Interface.short (interface : Interface) : List Char → State → Except Refusal State
  | [], state => .ok state
  | letter :: rest, state =>
    match interface.lettered? letter with
    | none => .error .unknownArgument
    | some parameter =>
      match parameter.role with
      | .valued _ => state.give parameter (valueAfterLetter? rest)
      | _ => do interface.short rest (← state.react parameter none)

/-- An operand. -/
def Interface.place (interface : Interface) (argument : String) (state : State) :
    Except Refusal State :=
  match interface.operand, state.hasOperand with
  | some name, false => do
    pure { ← state.settle with
      held := some (textParameter name none, some argument), hasOperand := true }
  | _, _ => .error .unknownArgument

/-- An argument that stands for itself: a value that is awaited, or an operand. -/
def Interface.plain (interface : Interface) (argument : String) (state : State) :
    Except Refusal State :=
  match state.awaits, state.held with
  | true, some (parameter, _) =>
    .ok { state with held := some (parameter, some argument), awaits := false }
  | _, _ => interface.place argument state

/-- Reads one argument. -/
def Interface.step (interface : Interface) (state : State) (argument : String) :
    Except Refusal State :=
  if state.operandsOnly then interface.place argument state
  else
    match argument.toList with
    | ['-', '-'] => .ok { state with operandsOnly := true }
    | '-' :: '-' :: cs => interface.long cs state
    | '-' :: c :: cs => interface.short (c :: cs) state
    | _ => interface.plain argument state

/-- Reads all arguments. -/
def Interface.read (interface : Interface) (arguments : List String) : Except Refusal Given := do
  let state ← arguments.foldlM interface.step {}
  pure (← state.settle).given

end Workbench.CommandLine
