set_option autoImplicit false

/-!
# Log events

What the tools and the library report while they work. An event has a level, a component that it
comes from and a message; which events are shown, and how, is decided elsewhere, so that the work
itself does not depend on it.

## Main definitions

* `Workbench.Level` — the five levels, most urgent first.
* `Workbench.Component` — the parts that report events, with the names that filters know them by.
* `Workbench.Event` — an event.
-/

namespace Workbench

/-- The urgency of an event. -/
inductive Level where
  | error | warn | info | debug | trace
  deriving DecidableEq, Repr

namespace Level

/-- The levels in order of urgency, from one. -/
def rank : Level → Nat
  | error => 1
  | warn => 2
  | info => 3
  | debug => 4
  | trace => 5

/-- The name of a level. -/
def name : Level → String
  | error => "ERROR"
  | warn => "WARN"
  | info => "INFO"
  | debug => "DEBUG"
  | trace => "TRACE"

end Level

/-- The parts that report events. -/
inductive Component where
  | frameTool | fontTool | versionTool
  | sender | converter | patcher | strike | interfaces
  deriving DecidableEq, Repr

/-- The name that filters know a component by. -/
def Component.name : Component → String
  | .frameTool => "send_frame"
  | .fontTool => "font_to_array"
  | .versionTool => "update_version"
  | .sender => "rtos_tools::core::frame"
  | .converter => "rtos_tools::core::font"
  | .patcher => "rtos_tools::core::version"
  | .strike => "rtos_tools::adapters::freetype"
  | .interfaces => "rtos_tools::adapters::datalink"

/-- A reported event. -/
structure Event where
  level : Level
  component : Component
  message : String
  deriving DecidableEq

end Workbench
