import Workbench.Net.Sender

set_option autoImplicit false

/-!
# Networks

The interfaces of a host, found by name. An interface that is there may still have no address, and it
may not let itself be opened.

## Main definitions

* `Workbench.HostInterface` — an interface of a host.
* `Workbench.Network` — the interfaces.
* `Workbench.Network.address`, `Workbench.Network.connect` — asking and opening an interface.
-/

namespace Workbench

/-- An interface of a host. -/
structure HostInterface where
  link : Link
  /-- What opening it complains about, if it cannot be opened. -/
  obstacle : Option String := none

/-- The interfaces of a host. -/
structure Network where
  interfaces : List HostInterface

namespace Network

/-- The interface of a name. -/
def interface (network : Network) (name : String) : Except Fault HostInterface :=
  match network.interfaces.find? fun i => i.link.name == name with
  | some i => .ok i
  | none => .error (.noInterface name)

/-- The address of an interface, which is not opened for that. -/
def address (network : Network) (name : String) : Except Fault MacAddress := do
  (← network.interface name).link.address

/-- What is reported before an interface is opened. -/
def connecting (name : String) : Event :=
  { level := .debug
    component := .interfaces
    message := "Opening datalink channel on " ++ name }

/-- Opens an interface. -/
def connect (network : Network) (name : String) : Except Fault Link × List Event :=
  match network.interface name with
  | .error fault => (.error fault, [])
  | .ok i =>
    match i.obstacle with
    | some complaint => (.error (.interfaceTrouble name complaint), [connecting name])
    | none => (.ok i.link, [connecting name])

/-- The network after an interface was used. -/
def release (network : Network) (link : Link) : Network :=
  { interfaces := network.interfaces.map fun i =>
      if i.link.name = link.name then { i with link } else i }

end Network

end Workbench
