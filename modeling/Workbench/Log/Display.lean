import Workbench.Log.Filter

set_option autoImplicit false

/-!
# Display of events

A shown event is one line: its time, its level and its message, either in columns or as a JSON object.
The lines of a run are mixed with lines for the user, which are always shown.

## Main definitions

* `Workbench.Layout` — in columns or as JSON.
* `Workbench.Environment.allowsColour` — whether lines may be in colour.
* `Workbench.Event.display` — the line of an event.
* `Workbench.Note`, `Workbench.display` — what a run reports, and its text.

## Design

In columns, characters that would control a terminal are shown by their numbers. The time and the
level are in colour unless the environment asks for none.
-/

namespace Workbench

/-- How events are laid out. -/
inductive Layout where
  | columns | json
  deriving DecidableEq, Repr

/-- A character of a message in columns. -/
def inColumns (c : Char) : List Char :=
  if c ∈ ['\x07', '\x08', '\x0c', '\x1b', '\x7f'] then '\\' :: 'x' :: Text.hexNumber 2 c.toNat
  else if 0x80 ≤ c.toNat ∧ c.toNat ≤ 0x9F then
    ['\\', 'u', '\x7b'] ++ Text.hexNumber 1 c.toNat ++ ['\x7d']
  else [c]

/-- A character of a JSON string. -/
def inJson (c : Char) : List Char :=
  if c = '"' then ['\\', '"']
  else if c = '\\' then ['\\', '\\']
  else if c = '\x08' then ['\\', 'b']
  else if c = '\x0c' then ['\\', 'f']
  else if c = '\n' then ['\\', 'n']
  else if c = '\r' then ['\\', 'r']
  else if c = '\t' then ['\\', 't']
  else if c.toNat < 0x20 then '\\' :: 'u' :: Text.hexNumber 4 c.toNat
  else [c]

/-- A JSON string. -/
def jsonString (s : String) : String := String.ofList ('"' :: s.toList.flatMap inJson ++ ['"'])

/-- A name with spaces in front up to five characters. -/
def padded (name : String) : String :=
  String.ofList (List.replicate (5 - name.length) ' ') ++ name

/-- Whether an environment lets text be coloured. -/
def Environment.allowsColour (environment : Environment) : Bool :=
  (environment.get? "NO_COLOR").all String.isEmpty

/-- The number by which terminals know faint text. -/
def faint : Nat := 2

/-- The number by which terminals know the colour of a level. -/
def Level.colour : Level → Nat
  | error => 31
  | warn => 33
  | info => 32
  | debug => 34
  | trace => 35

/-- A text in the style of a number, if text may be coloured. -/
def painted (inColour : Bool) (style : Nat) (text : String) : String :=
  if inColour then "\x1b[" ++ toString style ++ "m" ++ text ++ "\x1b[0m" else text

/-- The line of an event at a time. -/
def Event.display (event : Event) (time : String) (inColour : Bool) : Layout → String
  | .columns =>
    painted inColour faint time ++ " "
      ++ painted inColour event.level.colour (padded event.level.name) ++ " "
      ++ String.ofList (event.message.toList.flatMap inColumns) ++ "\n"
  | .json =>
    "\x7b\"timestamp\":" ++ jsonString time ++ ",\"level\":" ++ jsonString event.level.name
      ++ ",\"fields\":\x7b\"message\":" ++ jsonString event.message ++ "\x7d\x7d\n"

/-! ### Notes -/

/-- What a run reports. -/
inductive Note where
  /-- An event, which is shown if the filter lets it through. -/
  | event (event : Event)
  /-- A text for the user. -/
  | message (text : String)
  deriving DecidableEq

/-- The text of a note. -/
def Note.display (filter : Filter) (layout : Layout) (inColour : Bool) (time : String) :
    Note → String
  | .event e => if filter.shows e then e.display time inColour layout else ""
  | .message text => text

/-- The text of what a run reports. -/
def display (filter : Filter) (layout : Layout) (inColour : Bool) (time : String)
    (notes : List Note) : String :=
  String.join (notes.map (Note.display filter layout inColour time))

end Workbench
