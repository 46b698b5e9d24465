set_option autoImplicit false

/-!
# White space

The characters that count as blank everywhere in the library, and trimming them off both ends of a
text. The set is the Unicode property `White_Space`, which is larger than the blanks of the core
library.

## Main definitions

* `Workbench.Text.isBlank` — the property, as a test.
* `Workbench.Text.trim` — a text without its leading and trailing blanks.

## Main results

* `Workbench.Text.isBlank_of_isWhitespace` — the core library's blanks are blank.
-/

namespace Workbench.Text

/-- The Unicode property `White_Space`. -/
def isBlank (c : Char) : Bool :=
  let n := c.toNat
  (0x09 ≤ n && n ≤ 0x0D) || n == 0x20 || n == 0x85 || n == 0xA0 || n == 0x1680
    || (0x2000 ≤ n && n ≤ 0x200A) || n == 0x2028 || n == 0x2029 || n == 0x202F || n == 0x205F
    || n == 0x3000

/-- The core library's blanks are blank. -/
theorem isBlank_of_isWhitespace {c : Char} (h : c.isWhitespace = true) : isBlank c = true := by
  simp only [Char.isWhitespace, Bool.or_eq_true, decide_eq_true_eq] at h
  rcases h with ((h | h) | h) | h <;> subst h <;> decide

/-- The text without the blanks at its end. -/
def trimEnd (cs : List Char) : List Char := (cs.reverse.dropWhile isBlank).reverse

/-- The text without the blanks at its two ends. -/
def trim (cs : List Char) : List Char := trimEnd (cs.dropWhile isBlank)

/-- Whether a string is empty or holds blanks only. -/
def isBlankString (s : String) : Bool := s.toList.all isBlank

end Workbench.Text
