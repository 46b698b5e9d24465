import Workbench.Net.Ethertype
import Workbench.Net.MacAddress

set_option autoImplicit false

/-!
# Ethernet frames

A frame as the tools build it: two addresses, a type and a payload. On the wire it is the plain
concatenation, without padding and check sequence, which the hardware adds.

## Main definitions

* `Workbench.Frame` — a frame.
* `Workbench.Frame.toOctets` — the octets on the wire.
* `Workbench.Frame.ofOctets` — the frame of octets, of which there must be a full header.
-/

namespace Workbench

/-- An Ethernet frame. -/
structure Frame where
  destination : MacAddress
  source : MacAddress
  ethertype : UInt16
  payload : List UInt8
  deriving DecidableEq

namespace Frame

/-- Six octets of destination, six of source and two of type. -/
def headerLength : Nat := 14

/-- The two octets of a type, high one first. -/
def ethertypeOctets (ethertype : UInt16) : List UInt8 :=
  [UInt8.ofNat (ethertype.toNat / 256), UInt8.ofNat (ethertype.toNat % 256)]

/-- The octets of a frame on the wire. -/
def toOctets (frame : Frame) : List UInt8 :=
  frame.destination.octets.toList ++ frame.source.octets.toList
    ++ ethertypeOctets frame.ethertype ++ frame.payload

/-- The fault of octets that are too few for a header. -/
def tooShort (count : Nat) : Fault :=
  .badFrame (toString count ++ " bytes is shorter than the " ++ toString headerLength
    ++ "-byte Ethernet header")

/-- The frame whose header and payload the octets are. -/
def ofOctets (bs : List UInt8) : Except Fault Frame :=
  match bs with
  | d₀ :: d₁ :: d₂ :: d₃ :: d₄ :: d₅ :: s₀ :: s₁ :: s₂ :: s₃ :: s₄ :: s₅ :: high :: low :: payload =>
    .ok
      { destination := ⟨#v[d₀, d₁, d₂, d₃, d₄, d₅]⟩
        source := ⟨#v[s₀, s₁, s₂, s₃, s₄, s₅]⟩
        ethertype := UInt16.ofNat (256 * high.toNat + low.toNat)
        payload }
  | _ => .error (tooShort bs.length)

end Frame

end Workbench
