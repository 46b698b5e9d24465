import Workbench.Fault
import Workbench.Log.Display
import Workbench.Printer

set_option autoImplicit false

/-!
# The end of a run

What is left when a tool has run: its exit status, what it printed, and what it reported on the way
with the choices of the user on how reports are shown. None of the latter has an influence on the
former.

## Main definitions

* `Workbench.Finish` — the end of a run.
* `Workbench.Finish.printed` — the octets that got out of what it printed.
* `Workbench.Finish.crash` — the end of a run that breaks off.
* `Workbench.Finish.report` — what it reported, as text.
* `Workbench.Fault.advise` — what the user is told about a fault.

## Main results

* `Workbench.Finish.printed_of_output_eq` — nothing gets out without an output.

## Design

A run that breaks off ends with a status of its own. What the user reads then is not said by the tool and
is left out.
-/

namespace Workbench

/-- The end of a run. -/
structure Finish where
  status : Nat
  output : String := ""
  /-- How many octets of the output got out, if it was refused. -/
  cut : Option Nat := none
  notes : List Note
  /-- Whether the user wants to see more events. -/
  isVerbose : Bool
  layout : Layout := .columns
  deriving DecidableEq

/-- The octets that got out. -/
def Finish.printed (finish : Finish) : List UInt8 :=
  let octets := finish.output.toUTF8.toList
  match finish.cut with
  | none => octets
  | some taken => octets.take taken

/-- The end of a run that breaks off before it has reported anything. -/
def Finish.crash (isVerbose : Bool) (layout : Layout) : Finish :=
  { status := 101, notes := [], isVerbose, layout }

/-- Nothing gets out without an output. -/
theorem Finish.printed_of_output_eq {finish : Finish} (h : finish.output = "") :
    finish.printed = [] := by
  have hempty : "".toUTF8.toList = [] := by
    rw [ByteArray.toList, ByteArray.toList.loop]
    rfl
  rw [printed, h, hempty]
  cases finish.cut <;> simp

/-- What a run reported, as text. Without a filter no events are shown. -/
def Finish.report (finish : Finish) (reader : Filter.Reader) (environment : Environment)
    (time : String) : String :=
  display ((Filter.chosen reader environment finish.isVerbose).getD []) finish.layout
    environment.allowsColour time finish.notes

/-! ### What is said about faults -/

/-- What happened, for the user. -/
def Fault.tell (fault : Fault) : Note := .message ("❌ " ++ fault.headline ++ "\n")

/-- What can be done, for the user. -/
def Fault.advise (fault : Fault) : Note := .message ("💡 " ++ fault.advice ++ "\n")

/-- The event of settings that fail their check. -/
def Fault.rejecting (fault : Fault) (component : Component) : Note :=
  .event
    { level := .error
      component
      message := "❌ Configuration validation failed: " ++ fault.message }

/-- The event of a tool that fails. -/
def Fault.failing (fault : Fault) (component : Component) (tool : String) : Note :=
  .event
    { level := .error
      component
      message := "❌ " ++ tool ++ " failed: " ++ fault.message ++ " (Category: "
        ++ fault.category.name ++ ", Severity: " ++ fault.severity.name ++ ")" }

/-- The exit status of a tool that fails, which is never zero. -/
def Fault.failureStatus (fault : Fault) : Nat := max fault.exitStatus 1

/-- The event that shows the settings of a run. -/
def announcing (component : Component) (settings : String) : Note :=
  .event { level := .debug, component, message := "CLI config: " ++ settings }

/-- A truth value as settings show it. -/
def showSwitch (b : Bool) : String := if b then "true" else "false"

end Workbench
