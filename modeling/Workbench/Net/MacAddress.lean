import Workbench.Fault
import Workbench.Text.Blank
import Workbench.Text.Digit
import Workbench.Text.Fields

set_option autoImplicit false

/-!
# Hardware addresses

The six octets of an Ethernet address, their printed form and the reading of the forms that users
write: six groups of two hexadecimal digits between colons or hyphens, in any mixture, with blanks
around the whole.

## Main definitions

* `Workbench.MacAddress` — six octets.
* `Workbench.MacAddress.display` — the lower-case form with colons.
* `Workbench.MacAddress.ofText?` — the address that a text without outer blanks is written for.
* `Workbench.MacAddress.read` — the same for the text of a user, with the fault.
-/

namespace Workbench

/-- A hardware address. -/
structure MacAddress where
  /-- The six octets, first on the wire first. -/
  octets : Vector UInt8 6
  deriving DecidableEq

namespace MacAddress

/-- The address as lower-case groups between colons. -/
def display (address : MacAddress) : String :=
  ":".intercalate (address.octets.toList.map fun b => String.ofList (Text.hexOctet b))

/-- The characters that stand between groups. -/
def isSeparator (c : Char) : Bool := c == ':' || c == '-'

/-- The octet of a group of exactly two digits. -/
def octetOfGroup? : List Char → Option UInt8
  | [high, low] => Text.octetOfDigits? high low
  | _ => none

/-- The address of six octets. -/
def ofOctets? (bs : List UInt8) : Option MacAddress :=
  if h : bs.length = 6 then some ⟨⟨bs.toArray, by simpa using h⟩⟩ else none

/-- The address of a text without outer blanks. -/
def ofText? (cs : List Char) : Option MacAddress := do
  let bs ← (Text.fields isSeparator cs).mapM octetOfGroup?
  ofOctets? bs

/-- The address that a user wrote. The fault carries the text as it was written. -/
def read (s : String) : Except Fault MacAddress :=
  match ofText? (Text.trim s.toList) with
  | some address => .ok address
  | none => .error (.badAddress s)

end MacAddress

end Workbench
