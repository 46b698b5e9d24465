import Workbench.FrameTool.Settings
import Workbench.Net.HexDump
import Workbench.Net.Network

set_option autoImplicit false

/-!
# The frame tool

The tool builds one frame and sends it through an interface, or shows it as a hex dump if nothing is
to be sent. A source address that is not given is that of the interface.

## Main definitions

* `Workbench.FrameTool.showOnly` — a frame that is not sent.
* `Workbench.FrameTool.transmit` — a frame that is sent.
* `Workbench.FrameTool.run` — a whole run.
* `Workbench.FrameTool.print` — what comes of a run in print.
-/

namespace Workbench.FrameTool

/-- What came of a frame. -/
structure Attempt where
  result : Except Fault Frame
  output : String := ""
  notes : List Note
  network : Network

/-- The event that nothing is sent. -/
def dryRunning : Note :=
  .event
    { level := .info
      component := .frameTool
      message := "🔍 DRY RUN MODE - frame is not sent" }

/-- The event that a frame was built, and sent if it was to be. -/
def succeeding (frame : Frame) : Note :=
  .event
    { level := .info
      component := .frameTool
      message := "✅ " ++ frame.source.display ++ " -> " ++ frame.destination.display ++ " ("
        ++ toString frame.payload.length ++ " payload bytes)" }

/-- The frame of settings that is only shown. -/
def shownFrame (settings : Settings) (network : Network) : Except Fault Frame := do
  let destination ← settings.destinationAddress
  let source ← match ← settings.sourceAddress with
    | some address => pure address
    | none => network.address settings.interface
  let ethertype ← settings.frameType
  pure { destination, source, ethertype, payload := settings.payloadOctets }

/-- Shows the frame of settings. -/
def showOnly (settings : Settings) (network : Network) : Attempt :=
  let result := shownFrame settings network
  { result
    output := match result with
      | .ok frame => HexDump.dump frame.toOctets
      | .error _ => ""
    notes := [dryRunning]
    network }

/-- The sender of settings on a link. -/
def senderOn (settings : Settings) (link : Link) : Except Fault Sender := do
  let source ← settings.sourceAddress
  let ethertype ← settings.frameType
  pure ((({ link } : Sender).withSource source).withEthertype ethertype)

/-- Sends the frame of settings on a link that was opened. -/
def transmitOn (settings : Settings) (network : Network) (opened : List Event) (link : Link) :
    Attempt :=
  match settings.destinationAddress, senderOn settings link with
  | .error fault, _ => { result := .error fault, notes := opened.map .event, network }
  | _, .error fault => { result := .error fault, notes := opened.map .event, network }
  | .ok destination, .ok sender =>
    let (result, events, after) := sender.send destination settings.payloadOctets
    { result, notes := (opened ++ events).map .event, network := network.release after.link }

/-- Sends the frame of settings. -/
def transmit (settings : Settings) (network : Network) : Attempt :=
  match network.connect settings.interface with
  | (.error fault, events) => { result := .error fault, notes := events.map .event, network }
  | (.ok link, events) => transmitOn settings network events link

/-- The end of a run that fails. -/
def failure (settings : Settings) (notes : List Note) (fault : Fault) : Finish :=
  { status := fault.failureStatus
    notes := notes ++ [fault.failing .frameTool "send-frame", fault.tell, fault.advise]
    isVerbose := settings.verbose }

/-- A whole run, with the network as it leaves it. -/
def run (settings : Settings) (network : Network) : Finish × Network :=
  let start := [announcing .frameTool settings.describe]
  match settings.check with
  | .error fault => (failure settings start fault, network)
  | .ok () =>
    let attempt := if settings.dryRun then showOnly settings network else transmit settings network
    match attempt.result with
    | .error fault => (failure settings (start ++ attempt.notes) fault, attempt.network)
    | .ok frame =>
      ({ status := 0
         output := attempt.output
         notes := start ++ attempt.notes ++ [succeeding frame]
         isVerbose := settings.verbose },
        attempt.network)

/-- A run whose output is printed. If it is refused, the run breaks off before it reports that it has
succeeded, which is the last thing that it reports. -/
def print (printer : Printer) (finish : Finish) : Finish :=
  if finish.output.isEmpty then finish
  else
    match printer finish.output.toUTF8.toList with
    | none => finish
    | some refusal =>
      { finish with status := 101, cut := refusal.taken, notes := finish.notes.dropLast }

end Workbench.FrameTool
