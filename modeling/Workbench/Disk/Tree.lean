import Workbench.Disk.Path
import Workbench.Font.Strike
import Workbench.SystemError

set_option autoImplicit false

/-!
# Disks

A disk is a tree of directories and files without links, with a directory to start relative paths
from. A path is followed name by name; what it leads to is a place in an existing directory, and only
then is it decided whether there is something at that place.

## Main definitions

* `Workbench.Disk` — the entries by location, and the directory to start from.
* `Workbench.Disk.follow` — the place that a path leads to.
* `Workbench.Disk.content`, `Workbench.Disk.put` — what is in a file, and changing it.
* `Workbench.Disk.readText`, `Workbench.Disk.writeText` — whole files as text.

## Design

A file holds octets, or a font in the drawn form that the rasterizer sees. Reading a text does not
look at fonts. The system may refuse to read or to write at a location, for a reason of its own such as
a lack of rights. A write that fails is refused before it begins, so that it changes nothing.
-/

namespace Workbench

/-- The names from the root down to an entry. -/
abbrev Location := List String

/-- What a file holds. -/
inductive Content where
  | octets (bs : List UInt8)
  | font (font : Strike)
  deriving DecidableEq

/-- What is at a location. -/
inductive Entry where
  | directory
  | file (content : Content)
  deriving DecidableEq

/-- A tree of directories and files. -/
structure Disk where
  /-- The entries below the root. -/
  entries : List (Location × Entry)
  /-- Where relative paths start. -/
  start : Location
  /-- Where the system refuses to read, and why. -/
  readFaults : List (Location × SystemError) := []
  /-- Where the system refuses to write, and why. -/
  writeFaults : List (Location × SystemError) := []
  deriving DecidableEq

namespace Disk

/-- The longest name of an entry, in octets. -/
def longestName : Nat := 255

/-- The longest path, in octets. -/
def longestPath : Nat := 4095

/-- What is at a location; the root is a directory. -/
def entry? (disk : Disk) (location : Location) : Option Entry :=
  if location = [] then some .directory else disk.entries.lookup location

/-! ### Following a path -/

/-- The directory that a name leads to from a directory. -/
def enter (disk : Disk) (directory : Location) (name : String) : Except SystemError Location :=
  if name = "" ∨ name = "." then .ok directory
  else if name = ".." then .ok directory.dropLast
  else if longestName < name.utf8ByteSize then .error .nameTooLong
  else
    match disk.entry? (directory ++ [name]) with
    | some .directory => .ok (directory ++ [name])
    | some (.file _) => .error .notDirectory
    | none => .error .noEntry

/-- The place that a path leads to. -/
inductive Place where
  /-- A directory that is there by the form of the path. -/
  | directory
  /-- A name in a directory that is there; `slash` tells whether a slash follows the name. -/
  | named (parent : Location) (name : String) (slash : Bool)
  deriving DecidableEq

/-- The place of the last name of a path in a directory. -/
def placeOf (parent : Location) (name : String) (slash : Bool) : Place :=
  if name = "" ∨ name = "." ∨ name = ".." then .directory else .named parent name slash

/-- The names of a path without empty ones at the end, and whether there were any. -/
def names (path : String) : List String × Bool :=
  let segments := (Path.segments path).map String.ofList
  let proper := (segments.reverse.dropWhile (· == "")).reverse
  (proper, proper.length < segments.length)

/-- Follows a path from where it starts. -/
def follow (disk : Disk) (path : String) : Except SystemError Place := do
  if path.toList.contains '\x00' then throw .nulInPath
  if path.isEmpty then throw .noEntry
  if longestPath < path.utf8ByteSize then throw .nameTooLong
  let origin := if Path.isAbsolute path then [] else disk.start
  let (proper, slash) := names path
  let parent ← proper.dropLast.foldlM disk.enter origin
  pure (placeOf parent (proper.getLast?.getD "") slash)

/-! ### Files -/

/-- Whether an access at a location is granted, by the locations where it is refused. -/
def grant (faults : List (Location × SystemError)) (location : Location) :
    Except SystemError Unit :=
  match faults.lookup location with
  | some cause => .error cause
  | none => .ok ()

/-- The content of the file that a path leads to. -/
def content (disk : Disk) (path : String) : Except SystemError Content := do
  match ← disk.follow path with
  | .directory => throw .isDirectory
  | .named parent name slash =>
    if longestName < name.utf8ByteSize then throw .nameTooLong
    grant disk.readFaults (parent ++ [name])
    match disk.entry? (parent ++ [name]) with
    | none => throw .noEntry
    | some .directory => throw .isDirectory
    | some (.file content) => if slash then throw .notDirectory else pure content

/-- The location that a path can be written at. -/
def writable (disk : Disk) (path : String) : Except SystemError Location := do
  match ← disk.follow path with
  | .directory => throw .isDirectory
  | .named parent name slash =>
    if slash then throw .isDirectory
    if longestName < name.utf8ByteSize then throw .nameTooLong
    match disk.entry? (parent ++ [name]) with
    | some .directory => throw .isDirectory
    | _ => do
      grant disk.writeFaults (parent ++ [name])
      pure (parent ++ [name])

/-- Entries with a file of a content at a location: in its place if there is one, else at the
end. -/
def putEntry (location : Location) (content : Content) :
    List (Location × Entry) → List (Location × Entry)
  | [] => [(location, .file content)]
  | (l, e) :: rest =>
    if l = location then (l, .file content) :: rest else (l, e) :: putEntry location content rest

/-- Puts a content at a location. -/
def put (disk : Disk) (location : Location) (content : Content) : Disk :=
  { disk with entries := putEntry location content disk.entries }

/-! ### Texts -/

/-- The text whose octets a file holds, if they are text. -/
def textOf? : Content → Option String
  | .octets bs => String.fromUTF8? bs.toByteArray
  | .font _ => none

/-- The octets of a text. -/
def octetsOf (text : String) : Content := .octets text.toUTF8.toList

/-- The text in the file that a path leads to. -/
def readText (disk : Disk) (path : String) : Except SystemError String := do
  match textOf? (← disk.content path) with
  | some text => pure text
  | none => throw .notText

/-- The disk after a text was written to a path. -/
def writeText (disk : Disk) (path text : String) : Except SystemError Disk := do
  pure (disk.put (← disk.writable path) (octetsOf text))

/-! ### Fonts -/

/-- The font in the file that a path leads to, drawn for a pixel size. Whatever is there but is no
font, a directory too, is told apart from a path that leads nowhere. -/
def openFont (disk : Disk) (path : String) (pixelSize : Nat) : Except FontError Strike :=
  match disk.content path with
  | .ok (.font font) => font.select pixelSize
  | .ok (.octets _) => .error .unknownFileFormat
  | .error cause =>
    .error (if cause = .isDirectory then .unknownFileFormat else .cannotOpenResource)

/-! ### Building a disk -/

/-- The directories on the way to a location, outermost first, without the root. -/
def parents (location : Location) : List Location :=
  (List.range location.length).filterMap fun n => if n = 0 then none else some (location.take n)

/-- Adds a directory with all directories above it. -/
def addDirectory (location : Location) (disk : Disk) : Disk :=
  { disk with
    entries := (parents location ++ [location]).foldl
      (fun entries l => if l = [] ∨ (entries.lookup l).isSome then entries
        else entries ++ [(l, .directory)]) disk.entries }

/-- Adds a file with all directories above it. -/
def addFile (location : Location) (content : Content) (disk : Disk) : Disk :=
  (disk.addDirectory location.dropLast).put location content

/-- The disk without what is at some locations. -/
def without (disk : Disk) (locations : List Location) : Disk :=
  { disk with entries := disk.entries.filter fun entry => !locations.contains entry.1 }

/-- The files with octets below a location, by the names that follow it. -/
def filesBelow (disk : Disk) (location : Location) : List (Location × List UInt8) :=
  disk.entries.filterMap fun (l, e) =>
    match e with
    | .file (.octets bs) =>
      if location.isPrefixOf l then some (l.drop location.length, bs) else none
    | _ => none

end Disk

end Workbench
