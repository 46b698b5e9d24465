import Workbench.Fault
import Workbench.Text.Blank
import Workbench.Text.Digit

set_option autoImplicit false

/-!
# Ethertypes

The 16-bit type field of a frame as users write it: decimal, or hexadecimal after the mark `0x`.

## Main definitions

* `Workbench.Ethertype.loopback` — the type of a frame that names none.
* `Workbench.Ethertype.ofText` — the value of a text without outer blanks.
* `Workbench.Ethertype.read` — the same for the text of a user, with the fault.
-/

namespace Workbench.Ethertype

/-- The configuration test protocol: a bare header with a raw payload. -/
def loopback : UInt16 := 0x9000

/-- The value of a text, hexadecimal after a mark of either case and decimal otherwise. -/
def ofText : List Char → Except Text.NumeralFault Nat
  | '0' :: 'x' :: digits => Text.readWord 16 65535 digits
  | '0' :: 'X' :: digits => Text.readWord 16 65535 digits
  | digits => Text.readWord 10 65535 digits

/-- The type that a user wrote. The fault carries the text as it was written. -/
def read (s : String) : Except Fault UInt16 :=
  match ofText (Text.trim s.toList) with
  | .ok value => .ok (UInt16.ofNat value)
  | .error fault => .error (.badValue "ethertype" s fault.message)

end Workbench.Ethertype
