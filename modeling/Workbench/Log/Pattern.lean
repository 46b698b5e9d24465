import Workbench.Log.Pattern.Expression

set_option autoImplicit false

/-!
# Patterns

A directive may ask that the value of a field matches a pattern, that is, a number or a regular
expression. Only the form of a pattern matters here, since no value is ever compared with one.

## Main definitions

* `Workbench.Pattern.isPositive` — whether a text is a number with a plus sign.
* `Workbench.Pattern.isPattern` — whether a text is a pattern.
-/

namespace Workbench.Pattern

/-- Whether a text is an exponent, or nothing. -/
def isExponent : List Char → Bool
  | [] => true
  | c :: rest =>
    let digits := if rest.head? == some '+' || rest.head? == some '-' then rest.drop 1 else rest
    (c == 'e' || c == 'E') && !digits.isEmpty && digits.all Text.isDecimal

/-- Whether a text is a decimal number without a sign, with digits on at least one side of a point. -/
def isNumeral (cs : List Char) : Bool :=
  let after := cs.dropWhile Text.isDecimal
  let point := after.head? == some '.'
  let fraction := if point then (after.drop 1).takeWhile Text.isDecimal else []
  let rest := if point then (after.drop 1).dropWhile Text.isDecimal else after
  (!(cs.takeWhile Text.isDecimal).isEmpty || !fraction.isEmpty) && isExponent rest

/-- Whether a text is a number with a plus sign. All other numbers are regular expressions too. -/
def isPositive : List Char → Bool
  | '+' :: rest =>
    isNumeral rest || ["inf", "infinity", "nan"].contains (String.ofList rest).toLower
  | _ => false

/-- Whether a text is a pattern. -/
def isPattern (cs : List Char) : Bool := isPositive cs || isExpression cs

end Workbench.Pattern
