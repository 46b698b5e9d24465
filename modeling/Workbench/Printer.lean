import Workbench.SystemError

set_option autoImplicit false

/-!
# Printers

What a tool prints goes to a printer, which takes all of it or refuses it, perhaps after a part.

## Main definitions

* `Workbench.Printer` — takes octets or refuses them.
* `Workbench.Printer.Refusal` — how much it has taken, and why it takes no more.
* `Workbench.Printer.willing` — the printer that takes everything.
-/

namespace Workbench

/-- A printer takes no more. -/
structure Printer.Refusal where
  /-- How many of the octets it has taken, from the first one on. -/
  taken : Nat
  cause : SystemError
  deriving DecidableEq, Repr

/-- Takes octets, unless it refuses them. -/
abbrev Printer := List UInt8 → Option Printer.Refusal

/-- The printer that takes everything. -/
def Printer.willing : Printer := fun _ => none

end Workbench
