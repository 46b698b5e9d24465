import Workbench.Disk.Tree
import Workbench.Version.Store

set_option autoImplicit false

/-!
# Folders as stores

A folder is a directory that paths are taken from. It makes a disk a store of texts, so that versions
can be applied to the files in it.

## Main definitions

* `Workbench.Folder` — a base path.
* `Workbench.Folder.store` — the store that it makes of a disk.
-/

namespace Workbench

/-- A directory that paths are taken from. -/
structure Folder where
  base : String

namespace Folder

/-- Reads the text at a path taken from the base. -/
def read (folder : Folder) (path : String) (disk : Disk) : Except Fault String × Disk :=
  match disk.readText (Path.join folder.base path) with
  | .ok text => (.ok text, disk)
  | .error cause => (.error (.file cause), disk)

/-- Writes a text to a path taken from the base. -/
def write (folder : Folder) (path text : String) (disk : Disk) : Except Fault Unit × Disk :=
  match disk.writeText (Path.join folder.base path) text with
  | .ok after => (.ok (), after)
  | .error cause => (.error (.file cause), disk)

/-- The texts in the files of a folder. -/
def store (folder : Folder) : TextStore Disk := { read := folder.read, write := folder.write }

end Folder

end Workbench
