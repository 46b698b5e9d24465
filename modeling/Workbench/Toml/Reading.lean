import Workbench.Toml.Key
import Workbench.Toml.Moment
import Workbench.Toml.Number
import Workbench.Toml.Table

set_option autoImplicit false

/-!
# Reading documents

A document is read statement by statement: a header in brackets or an assignment, each on its own
line. Values are texts, words, arrays in brackets and tables in braces.

## Main definitions

* `Workbench.Toml.items?` — items between commas up to a closing bracket.
* `Workbench.Toml.value?` — a value with a bound on how deep brackets are nested.
* `Workbench.Toml.statements?` — the statements of a document.
* `Workbench.Toml.read?` — the fields of a document.

## Design

The bound on nesting is the argument that the reading of values recurses on. A word goes on to the
next character that means something between words, whatever it is made of. A date may be followed by
a time after a space, so a word also goes on after spaces if more of it follows on the line, and what
it stands for is decided afterwards. Between braces the parts of an assignment may stand on lines of
their own.
-/

namespace Workbench.Toml

/-! ### Words -/

/-- The characters of words: all that mean nothing between words. -/
def isWordPart (c : Char) : Bool :=
  c ∉ ['=', ',', '[', ']', '\x7b', '\x7d', ' ', '\t', '#', '\r', '\n']

/-- Whether a character can go on with a word after spaces; a mark of quotation starts a text there. -/
def resumesWord (c : Char) : Bool := isWordPart c && c != '"' && c != '\''

/-- The word at the front of a text, and what follows it. -/
def takeWord : List Char → List Char × List Char
  | [] => ([], [])
  | c :: rest =>
    if isWordPart c || isSpace c && (skipSpaces rest).head?.any resumesWord then
      let (word, last) := takeWord rest
      (c :: word, last)
    else ([], c :: rest)

/-- The value that a word is written for. -/
def wordValue? (word : List Char) : Option Value :=
  if word = ['t', 'r', 'u', 'e'] then some (.boolean true)
  else if word = ['f', 'a', 'l', 's', 'e'] then some (.boolean false)
  else if isMoment word then some .moment
  else number? word

/-- A text or a word. -/
def simple? (cs : List Char) : Option (Value × List Char) :=
  match quoted? cs with
  | some (text, rest) => some (.text (String.ofList text), rest)
  | none =>
    let (word, rest) := takeWord cs
    (wordValue? word).map (·, rest)

/-! ### Items between brackets -/

variable {α : Type}

/-- Items between commas up to a closing bracket. Spaces, line breaks and comments may stand around
the items, and a comma may follow the last one. -/
def items? (closing : Char) (item : Reader α) (cs : List Char) : Option (List α × List Char) :=
  match skipTrivia false cs with
  | [] => none
  | c :: rest =>
    if c = closing then some ([], rest)
    else
      match item (c :: rest) with
      | none => none
      | some (a, rest) =>
        match skipTrivia false rest with
        | [] => none
        | d :: rest =>
          if d = closing then some ([a], rest)
          else if d = ',' ∧ rest.length < cs.length then
            (items? closing item rest).map fun (as, last) => (a :: as, last)
          else none
termination_by cs.length
decreasing_by omega

/-- An assignment of a value to a path of keys. `skip` skips what may stand around the equals sign. -/
def assignment? (skip : List Char → List Char) (value : Reader Value) (cs : List Char) :
    Option (Assignment × List Char) := do
  let (path, cs) ← keyPath? cs
  let (v, cs) ← value (skip (← expect? '=' (skip cs)))
  pure ((path, v), cs)

/-! ### Values -/

/-- How deep brackets may be nested. -/
def deepest : Nat := 80

/-- A value in which brackets are nested at most so deep. -/
def value? : Nat → Reader Value
  | 0, cs => simple? cs
  | depth + 1, '[' :: rest =>
    (items? ']' (value? depth) rest).map fun (elements, last) => (.array elements, last)
  | depth + 1, '\x7b' :: rest =>
    (items? '\x7d' (assignment? (skipTrivia false) (value? depth)) rest).bind fun (assignments, last) =>
      (Fields.assignAll assignments []).map fun fields => (.table .inline fields, last)
  | _, cs => simple? cs

/-! ### Statements -/

/-- A header in brackets. -/
def header? : Reader Header
  | '[' :: '[' :: rest => do
    let (path, rest) ← keyPath? (skipSpaces rest)
    pure (.repeated path, ← expect? ']' (← expect? ']' rest))
  | '[' :: rest => do
    let (path, rest) ← keyPath? (skipSpaces rest)
    pure (.single path, ← expect? ']' rest)
  | _ => none

/-- A statement, without the end of its line. -/
def statement? (cs : List Char) : Option (Statement × List Char) :=
  if cs.head? = some '[' then (header? cs).map fun (header, rest) => (.opens header, rest)
  else (assignment? skipSpaces (value? deepest) cs).map fun ((path, v), rest) => (.assigns path v, rest)

/-- A statement with the end of its line. -/
def statementLine? (cs : List Char) : Option (Statement × List Char) := do
  let (statement, rest) ← statement? cs
  pure (statement, ← endOfLine? rest)

/-- The statements up to the end of a text. -/
def statements? (cs : List Char) : Option (List Statement) :=
  match skipTrivia false cs with
  | [] => some []
  | c :: rest =>
    match statementLine? (c :: rest) with
    | none => none
    | some (statement, last) =>
      if last.length < cs.length then (statements? last).map (statement :: ·) else none
termination_by cs.length

/-- A text without the mark that tells its byte order. -/
def skipOrderMark : List Char → List Char
  | '\ufeff' :: rest => rest
  | cs => cs

/-- The fields of a document. -/
def read? (cs : List Char) : Option Fields := do assemble (← statements? (skipOrderMark cs))

end Workbench.Toml
