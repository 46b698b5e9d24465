import Workbench.Log
import Workbench.Net.Frame

set_option autoImplicit false

/-!
# Sending frames

A link takes octets and may stop taking them at any call; a sender builds frames for it. Building a
frame needs a source address: the one set on the sender, or else the link's own.

## Main definitions

* `Workbench.Link` — an interface: its name, its address, when it fails, and what went through.
* `Workbench.Link.transmit` — one call of the link.
* `Workbench.Sender` — a link with a source address and a type to put on frames.
* `Workbench.Sender.build`, `Workbench.Sender.send` — a frame, built or built and transmitted.
* `Workbench.Sender.Step`, `Workbench.Sender.perform` — the operations of a sender as data.

## Design

`Link` keeps the history of its calls, so that what a sender did to the link can be read off the
link afterwards. A failing call is counted and lets nothing through.
-/

namespace Workbench

/-! ### Links -/

/-- A link-layer interface together with the history of its calls. -/
structure Link where
  name : String
  /-- What the interface answers when it is asked for its own address. -/
  address : Except Fault MacAddress
  /-- The number of the first transmission that fails, if any does. -/
  failsFrom : Option Nat
  /-- What a failing transmission complains about. -/
  complaint : String := "link down"
  /-- How many transmissions were asked for. -/
  calls : Nat := 0
  /-- The octets that went through, oldest first. -/
  sent : List (List UInt8) := []

namespace Link

/-- Whether the next transmission fails. -/
def isDown (link : Link) : Bool :=
  match link.failsFrom with
  | some n => n ≤ link.calls
  | none => false

/-- One transmission: it is counted, and its octets are kept unless the link is down. -/
def transmit (link : Link) (bs : List UInt8) : Except Fault Unit × Link :=
  if link.isDown then
    (.error (.transmission link.name link.complaint), { link with calls := link.calls + 1 })
  else
    (.ok (), { link with calls := link.calls + 1, sent := link.sent ++ [bs] })

end Link

/-! ### Senders -/

/-- A link with what it puts on frames. -/
structure Sender where
  link : Link
  /-- The source address to use instead of the link's own. -/
  source : Option MacAddress := none
  ethertype : UInt16 := Ethertype.loopback

namespace Sender

/-- The same sender with another source address, or with the link's own. -/
def withSource (sender : Sender) (source : Option MacAddress) : Sender := { sender with source }

/-- The same sender with another type. -/
def withEthertype (sender : Sender) (ethertype : UInt16) : Sender := { sender with ethertype }

/-- The source address that a frame gets. -/
def sourceAddress (sender : Sender) : Except Fault MacAddress :=
  match sender.source with
  | some address => .ok address
  | none => sender.link.address

/-- The frame for a destination and a payload. -/
def build (sender : Sender) (destination : MacAddress) (payload : List UInt8) :
    Except Fault Frame :=
  sender.sourceAddress.map fun source =>
    { destination, source, ethertype := sender.ethertype, payload }

/-- What is reported before a frame of some length is transmitted. -/
def sending (name : String) (frame : Frame) : Event :=
  { level := .debug
    component := .sender
    message := "Sending " ++ toString frame.toOctets.length ++ " bytes on " ++ name ++ ": "
      ++ frame.source.display ++ " -> " ++ frame.destination.display ++ " type "
      ++ Text.hexMarked 4 frame.ethertype.toNat }

/-- What is reported after a frame was transmitted. -/
def hasSent (name : String) (frame : Frame) : Event :=
  { level := .info
    component := .sender
    message := "📤 Sent " ++ toString frame.toOctets.length ++ "-byte frame on " ++ name }

/-- Builds a frame and transmits it once. Answers the frame, what was reported and the sender with
the link as the call left it. -/
def send (sender : Sender) (destination : MacAddress) (payload : List UInt8) :
    Except Fault Frame × List Event × Sender :=
  match sender.build destination payload with
  | .error fault => (.error fault, [], sender)
  | .ok frame =>
    let name := sender.link.name
    match sender.link.transmit frame.toOctets with
    | (.error fault, link) => (.error fault, [sending name frame], { sender with link })
    | (.ok (), link) => (.ok frame, [sending name frame, hasSent name frame], { sender with link })

/-! ### Runs -/

/-- An operation on a sender, with addresses as users write them. -/
inductive Step where
  | withSource (address : Option String)
  | withEthertype (ethertype : UInt16)
  | sourceAddress
  | build (destination : String) (payload : List UInt8)
  | send (destination : String) (payload : List UInt8)

/-- What an operation answers. -/
inductive Answer where
  | done
  | address (address : MacAddress)
  | frame (frame : Frame)

/-- Performs one operation. An address that cannot be read ends it before anything else happens. -/
def perform (sender : Sender) : Step → Except Fault Answer × List Event × Sender
  | .withSource none => (.ok .done, [], sender.withSource none)
  | .withSource (some text) =>
    match MacAddress.read text with
    | .ok address => (.ok .done, [], sender.withSource (some address))
    | .error fault => (.error fault, [], sender)
  | .withEthertype ethertype => (.ok .done, [], sender.withEthertype ethertype)
  | .sourceAddress => (sender.sourceAddress.map .address, [], sender)
  | .build destination payload =>
    match MacAddress.read destination with
    | .ok address => ((sender.build address payload).map .frame, [], sender)
    | .error fault => (.error fault, [], sender)
  | .send destination payload =>
    match MacAddress.read destination with
    | .ok address =>
      let (result, events, after) := sender.send address payload
      (result.map .frame, events, after)
    | .error fault => (.error fault, [], sender)

end Sender

end Workbench
