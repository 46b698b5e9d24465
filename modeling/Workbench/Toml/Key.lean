import Workbench.Toml.Quoted

set_option autoImplicit false

/-!
# Keys

A key is a plain word or a quoted text on one line; keys with points between them are a path, which
has a bounded number of keys.

## Main definitions

* `Workbench.Toml.isWordCharacter` — the characters of plain words.
* `Workbench.Toml.key?` — one key.
* `Workbench.Toml.keys?` — keys with points between them.
* `Workbench.Toml.keyPath?` — a path of keys.
-/

namespace Workbench.Toml

/-- The characters of plain words: ASCII letters and digits, the hyphen and the underscore. -/
def isWordCharacter (c : Char) : Bool := c.isAlphanum || c == '-' || c == '_'

/-- One key. -/
def key? (cs : List Char) : Option (String × List Char) :=
  let word := cs.takeWhile isWordCharacter
  if word.isEmpty then (quotedLine? cs).map fun (text, rest) => (String.ofList text, rest)
  else some (String.ofList word, cs.dropWhile isWordCharacter)

/-- One or more keys with points between them, and the spaces after them. -/
def keys? (cs : List Char) : Option (List String × List Char) :=
  match key? cs with
  | none => none
  | some (key, rest) =>
    match skipSpaces rest with
    | '.' :: more =>
      if (skipSpaces more).length < cs.length then
        (keys? (skipSpaces more)).map fun (path, last) => (key :: path, last)
      else none
    | last => some ([key], last)
termination_by cs.length

/-- How many keys a path may have. -/
def longestKeyPath : Nat := 80

/-- A path of keys, and the spaces after it. -/
def keyPath? (cs : List Char) : Option (List String × List Char) :=
  (keys? cs).filter fun (path, _) => path.length ≤ longestKeyPath

end Workbench.Toml
