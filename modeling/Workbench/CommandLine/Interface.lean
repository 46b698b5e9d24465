set_option autoImplicit false

/-!
# Command lines

What a tool accepts on its command line: switches, parameters with a value, and perhaps one operand.
Reading the arguments gives the values by name, or the reason why they are refused.

## Main definitions

* `Workbench.CommandLine.Parameter`, `Workbench.CommandLine.Interface` — what is accepted.
* `Workbench.CommandLine.Refusal` — why arguments are refused.
* `Workbench.CommandLine.Given` — what was given.
-/

namespace Workbench.CommandLine

/-- What giving a parameter does. -/
inductive Role where
  /-- It asks for help, which ends everything else. -/
  | help
  /-- It is on or off. -/
  | switch
  /-- It takes a value, which must pass a test. -/
  | valued (accepts : String → Bool)

/-- A parameter. -/
structure Parameter where
  /-- What follows two hyphens. -/
  name : String
  /-- What follows one hyphen. -/
  letter : Option Char := none
  role : Role

/-- What a tool accepts. -/
structure Interface where
  parameters : List Parameter
  /-- The name of the operand, if there may be one. -/
  operand : Option String := none

/-- A parameter that takes any text. -/
def textParameter (name : String) (letter : Option Char) : Parameter :=
  { name, letter, role := .valued fun _ => true }

/-- A parameter that is on or off. -/
def switch (name : String) (letter : Option Char) : Parameter := { name, letter, role := .switch }

/-- The parameter that every tool has. -/
def helpParameter : Parameter := { name := "help", letter := some 'h', role := .help }

/-- The parameter of a name. -/
def Interface.named? (interface : Interface) (name : List Char) : Option Parameter :=
  (interface.parameters ++ [helpParameter]).find? fun p => p.name.toList == name

/-- The parameter of a letter. -/
def Interface.lettered? (interface : Interface) (letter : Char) : Option Parameter :=
  (interface.parameters ++ [helpParameter]).find? fun p => p.letter == some letter

/-- Why arguments are refused. -/
inductive Refusal where
  /-- There is no such parameter, or no place for an operand. -/
  | unknownArgument
  /-- A parameter has no value. -/
  | missingValue
  /-- A parameter was given twice. -/
  | repeated
  /-- A switch was given a value. -/
  | needlessValue
  /-- A value does not pass the test of its parameter. -/
  | rejectedValue
  /-- Help was asked for. -/
  | helpWanted
  deriving DecidableEq, Repr

/-- The exit status after a refusal. -/
def Refusal.exitStatus : Refusal → Nat
  | helpWanted => 0
  | _ => 2

/-- The values by name; that of a switch is empty. -/
abbrev Given := List (String × String)

namespace Given

/-- The value of a parameter. -/
def get? (given : Given) (name : String) : Option String := given.lookup name

/-- The value of a parameter, or another one if it was not given. -/
def getD (given : Given) (name fallback : String) : String := (given.get? name).getD fallback

/-- Whether a switch is on. -/
def isOn (given : Given) (name : String) : Bool := (given.get? name).isSome

end Given

end Workbench.CommandLine
