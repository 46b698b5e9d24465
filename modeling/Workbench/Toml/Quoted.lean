import Workbench.Text.Digit
import Workbench.Toml.Trivia

set_option autoImplicit false

/-!
# Quoted texts of documents

Texts stand between quotation marks, where a backslash introduces escapes, or between apostrophes,
where every character stands for itself. Three of either mark enclose a text of several lines.

## Main definitions

* `Workbench.Toml.basic`, `Workbench.Toml.literal` — the rest of a text on one line.
* `Workbench.Toml.basicLines`, `Workbench.Toml.literalLines` — the rest of a text of several lines.
* `Workbench.Toml.quoted?` — a text of any of the four kinds.

## Design

The readers go through the text character by character and keep in a state what the character before
has begun. A text of several lines ends at the first three marks in a row; up to two more marks
directly after them belong to the text.
-/

namespace Workbench.Toml

/-! ### Marks and escapes -/

/-- The mark of texts with escapes. -/
def quotationMark : Char := '"'

/-- The mark of texts without escapes. -/
def apostrophe : Char := '\x27'

/-- The character that a single letter stands for after a backslash. -/
def letterEscape? : Char → Option Char
  | 'b' => some '\x08'
  | 't' => some '\t'
  | 'n' => some '\n'
  | 'f' => some '\x0c'
  | 'r' => some '\r'
  | 'e' => some '\x1b'
  | '"' => some '"'
  | '\\' => some '\\'
  | _ => none

/-- The number of hexadecimal digits that follow a letter after a backslash. -/
def digitsAfter? : Char → Option Nat
  | 'x' => some 2
  | 'u' => some 4
  | 'U' => some 8
  | _ => none

/-- The character of a number, unless the number is none. -/
def character? (n : Nat) : Option Char := if n.isValidChar then some (Char.ofNat n) else none

/-- Where the reading of a text stands. -/
inductive Mode where
  /-- Between characters. -/
  | plain
  /-- After a backslash. -/
  | opened
  /-- After some digits of a number, of which `missing` more must follow. -/
  | digits (missing value : Nat)
  /-- After a backslash and spaces, where a line break must follow. -/
  | folding
  /-- After a backslash and a line break, where further blanks are skipped. -/
  | folded
  deriving DecidableEq, Repr

/-- A text that was read, with a character put in front. -/
def push (c : Char) (result : Option (List Char × List Char)) : Option (List Char × List Char) :=
  result.map fun (cs, rest) => (c :: cs, rest)

/-- What follows a digit of an escape: the character if the digit was the last one, or a number that
is still incomplete. Nothing if there is no such digit or no such character. -/
def afterDigit? (missing value : Nat) (c : Char) : Option (Char ⊕ Mode) := do
  let d ← Text.digitValue? 16 c
  if missing ≤ 1 then (character? (16 * value + d)).map .inl
  else pure (.inr (.digits (missing - 1) (16 * value + d)))

/-- What follows a letter after a backslash: a character, or digits. -/
def afterBackslash? (c : Char) : Option (Char ⊕ Mode) :=
  ((letterEscape? c).map .inl).or ((digitsAfter? c).map fun n => .inr (.digits n 0))

/-! ### Texts on one line -/

/-- The rest of a text between quotation marks. -/
def basic (mode : Mode) : List Char → Option (List Char × List Char)
  | [] => none
  | c :: rest =>
    let resume : Option (Char ⊕ Mode) → Option (List Char × List Char)
      | some (.inl d) => push d (basic .plain rest)
      | some (.inr next) => basic next rest
      | none => none
    match mode with
    | .opened => resume (afterBackslash? c)
    | .digits missing value => resume (afterDigit? missing value c)
    | _ =>
      if c = quotationMark then some ([], rest)
      else if c = '\\' then basic .opened rest
      else if isPlain c then push c (basic .plain rest)
      else none

/-- The rest of a text between apostrophes. -/
def literal : List Char → Option (List Char × List Char)
  | [] => none
  | c :: rest =>
    if c = apostrophe then some ([], rest)
    else if isPlain c then push c (literal rest)
    else none

/-! ### Texts of several lines -/

/-- The end of a text of several lines after its first mark: two more marks end it, and up to two
after them belong to it. -/
def closing? (mark : Char) (rest : List Char) : Option (List Char × List Char) :=
  let run := (rest.takeWhile (· == mark)).length
  if run < 2 then none
  else
    let extra := min (run - 2) 2
    some (List.replicate extra mark, rest.drop (extra + 2))

/-- Whether a character belongs to a line break. -/
def breaks (c : Char) (rest : List Char) : Bool :=
  c == '\n' || (c == '\r' && rest.head? == some '\n')

/-- The rest of a text of several lines between quotation marks. -/
def basicLines (mode : Mode) : List Char → Option (List Char × List Char)
  | [] => none
  | c :: rest =>
    let resume : Option (Char ⊕ Mode) → Option (List Char × List Char)
      | some (.inl d) => push d (basicLines .plain rest)
      | some (.inr next) => basicLines next rest
      | none => none
    let blank := isSpace c || breaks c rest
    match mode with
    | .opened =>
      if blank then basicLines (if c = '\n' then .folded else .folding) rest
      else resume (afterBackslash? c)
    | .digits missing value => resume (afterDigit? missing value c)
    | .folding =>
      if blank then basicLines (if c = '\n' then .folded else .folding) rest else none
    | _ =>
      if mode = .folded ∧ blank then basicLines .folded rest
      else if c = quotationMark then
        (closing? quotationMark rest).or (push c (basicLines .plain rest))
      else if c = '\\' then basicLines .opened rest
      else if isPlain c || breaks c rest then push c (basicLines .plain rest)
      else none

/-- The rest of a text of several lines between apostrophes. -/
def literalLines : List Char → Option (List Char × List Char)
  | [] => none
  | c :: rest =>
    if c = apostrophe then (closing? apostrophe rest).or (push c (literalLines rest))
    else if isPlain c || breaks c rest then push c (literalLines rest)
    else none

/-- A text without the line break at its start. -/
def skipFirstBreak (cs : List Char) : List Char := (lineBreak? cs).getD cs

/-! ### All kinds -/

/-- A text on one line, of either kind. -/
def quotedLine? : List Char → Option (List Char × List Char)
  | '"' :: rest => basic .plain rest
  | '\x27' :: rest => literal rest
  | _ => none

/-- A text of any kind. -/
def quoted? : List Char → Option (List Char × List Char)
  | '"' :: '"' :: '"' :: rest => basicLines .plain (skipFirstBreak rest)
  | '\x27' :: '\x27' :: '\x27' :: rest => literalLines (skipFirstBreak rest)
  | cs => quotedLine? cs

end Workbench.Toml
