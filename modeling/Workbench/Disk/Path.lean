import Workbench.Text.Fields

set_option autoImplicit false

/-!
# Paths

Paths are texts with slashes between names. This module takes them apart: the names on the way, the
last name and its extension, and the path that one path leads to from another.

## Main definitions

* `Workbench.Path.segments` — the parts between slashes.
* `Workbench.Path.fileName?` — the name that a path ends in.
* `Workbench.Path.extension?` — what follows the last point of that name.
* `Workbench.Path.join` — a path taken from a base.
-/

namespace Workbench.Path

/-- Whether a path starts at the root. -/
def isAbsolute (path : String) : Bool := path.toList.head? == some '/'

/-- The parts between slashes; empty parts are empty names. -/
def segments (path : String) : List (List Char) := Text.fields (· == '/') path.toList

/-- The name of the directory itself. -/
def here : List Char := ['.']

/-- The name of the directory above. -/
def above : List Char := ['.', '.']

/-- The last name of a path, if that is the name of an entry: empty names and the directory itself
are passed over, the directory above is no entry of its own. -/
def fileName? (path : String) : Option (List Char) :=
  match (segments path).reverse.find? fun name => !name.isEmpty && name != here with
  | some name => if name = above then none else some name
  | none => none

/-- What follows the last point of a name, unless the name starts with that point. -/
def extensionOf? (name : List Char) : Option (List Char) :=
  let reversed := name.reverse
  match reversed.dropWhile (· != '.') with
  | '.' :: _ :: _ => some (reversed.takeWhile (· != '.')).reverse
  | _ => none

/-- The extension of the last name of a path. -/
def extension? (path : String) : Option String :=
  ((fileName? path).bind extensionOf?).map String.ofList

/-- The path that `path` names when it is taken from `base`: itself if it is absolute. -/
def join (base path : String) : String :=
  if isAbsolute path || base.isEmpty then path
  else if base.toList.getLast? == some '/' then base ++ path
  else base ++ "/" ++ path

end Workbench.Path
