set_option autoImplicit false

/-!
# Nesting

How deep the pieces of a regular expression are nested. A single character is not nested at all. A
group, a class and a repetition each lie one deeper than what they hold, and so do several pieces that
stand side by side, be they read one after the other or be they alternatives.

## Main definitions

* `Workbench.Pattern.deepest` — the deepest of some pieces.
* `Workbench.Pattern.together` — the nesting of pieces side by side.
* `Workbench.Pattern.mostNested` — how deep an expression may be nested.
-/

namespace Workbench.Pattern

/-- The deepest of some pieces. -/
def deepest (ns : List Nat) : Nat := ns.foldr max 0

/-- The nesting of pieces side by side. -/
def together : List Nat → Nat
  | [] => 0
  | [n] => n
  | ns => deepest ns + 1

/-- How deep an expression may be nested. -/
def mostNested : Nat := 250

end Workbench.Pattern
