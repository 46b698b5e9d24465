import Workbench.Check
import Workbench.CommandLine.Reading
import Workbench.Finish
import Workbench.Net.Frame
import Workbench.Text.Quoted

set_option autoImplicit false

/-!
# Settings of the frame tool

Where a frame goes, what it carries, and whether it is only shown. Addresses and the type are kept as
the user wrote them; they are read when they are needed.

## Main definitions

* `Workbench.FrameTool.Settings` — the settings.
* `Workbench.FrameTool.Settings.read` — the settings that arguments give.
* `Workbench.FrameTool.Settings.check` — whether they can be used.
-/

namespace Workbench.FrameTool

/-- The settings of the frame tool. -/
structure Settings where
  interface : String
  destination : String
  source : Option String
  payload : String
  ethertype : String
  dryRun : Bool
  verbose : Bool
  deriving DecidableEq, Repr

/-- What the frame tool accepts. -/
def interface : CommandLine.Interface :=
  { parameters :=
      [ CommandLine.textParameter "interface" (some 'i'),
        CommandLine.textParameter "destination" (some 'd'),
        CommandLine.textParameter "source" (some 's'),
        CommandLine.textParameter "payload" (some 'p'),
        CommandLine.textParameter "ethertype" none,
        CommandLine.switch "dry-run" none,
        CommandLine.switch "verbose" (some 'v') ] }

namespace Settings

/-- The settings for what was given. -/
def ofGiven (given : CommandLine.Given) : Settings :=
  { interface := given.getD "interface" "tap0"
    destination := given.getD "destination" "52:54:00:12:34:56"
    source := given.get? "source"
    payload := given.getD "payload" "Hello RTL8139!"
    ethertype := given.getD "ethertype" "0x9000"
    dryRun := given.isOn "dry-run"
    verbose := given.isOn "verbose" }

/-- The settings that arguments give. -/
def read (arguments : List String) : Except CommandLine.Refusal Settings :=
  (FrameTool.interface.read arguments).map ofGiven

/-! ### Parts that are read -/

/-- The destination address. -/
def destinationAddress (settings : Settings) : Except Fault MacAddress :=
  MacAddress.read settings.destination

/-- The source address, if one is given. -/
def sourceAddress (settings : Settings) : Except Fault (Option MacAddress) :=
  match settings.source with
  | some text => (MacAddress.read text).map some
  | none => .ok none

/-- The type. -/
def frameType (settings : Settings) : Except Fault UInt16 := Ethertype.read settings.ethertype

/-- The octets of the payload. -/
def payloadOctets (settings : Settings) : List UInt8 := settings.payload.toUTF8.toList

/-- The settings name an interface, and their addresses and type can be read. -/
def check (settings : Settings) : Except Fault Unit := do
  Check.notBlank "interface" settings.interface
  let _ ← settings.destinationAddress
  let _ ← settings.sourceAddress
  let _ ← settings.frameType

/-- The settings as text. -/
def describe (settings : Settings) : String :=
  "SendFrameConfig \x7b interface: " ++ Text.quoted settings.interface
    ++ ", destination: " ++ Text.quoted settings.destination
    ++ ", source: " ++ Text.quotedOption settings.source
    ++ ", payload: " ++ Text.quoted settings.payload
    ++ ", ethertype: " ++ Text.quoted settings.ethertype
    ++ ", dry_run: " ++ showSwitch settings.dryRun
    ++ ", verbose: " ++ showSwitch settings.verbose ++ " \x7d"

end Settings

end Workbench.FrameTool
