import Workbench.Disk.Path
import Workbench.Fault
import Workbench.Text.Blank

set_option autoImplicit false

/-!
# Checks of settings

Each check looks at one value of the settings and answers the fault that its field has, if any. The
fault carries the value as it was given.

## Main definitions

* `Workbench.Check.path`, `Workbench.Check.fileExtension` — paths.
* `Workbench.Check.notBlank`, `Workbench.Check.version` — texts.
* `Workbench.Check.present`, `Workbench.Check.inRange` — options and numbers.
-/

namespace Workbench.Check

/-- A path is not empty and does not hold the character that ends paths. -/
def path (field value : String) : Except Fault Unit :=
  if value.isEmpty then .error (.badValue field value "Path cannot be empty")
  else if value.toList.contains '\x00' then
    .error (.badValue field value "Path contains null bytes")
  else .ok ()

/-- The extension of a path is one of those that are allowed. -/
def fileExtension (field value : String) (allowed : List String) : Except Fault Unit :=
  match Path.extension? value with
  | none => .error (.badValue field value "File has no extension or invalid filename")
  | some found =>
    if found ∈ allowed then .ok ()
    else
      .error (.badValue field value ("Unsupported file extension: " ++ found
        ++ ". Allowed extensions: " ++ ", ".intercalate allowed))

/-- A setting was given. -/
def present {α : Type} (field : String) : Option α → Except Fault α
  | some value => .ok value
  | none => .error (.missing field)

/-- A text has a character that is not blank. -/
def notBlank (field value : String) : Except Fault Unit :=
  if Text.isBlankString value then
    .error (.badValue field value "Value cannot be empty or whitespace-only")
  else .ok ()

/-- A number lies between two bounds, which belong to the range. -/
def inRange (field : String) (value least greatest : Int) : Except Fault Unit :=
  if value < least ∨ greatest < value then
    .error (.badValue field (toString value)
      ("Value must be between " ++ toString least ++ " and " ++ toString greatest))
  else .ok ()

/-- The characters that would end a version early: the quotation mark and the line breaks. -/
def endsVersion (c : Char) : Bool := c == '"' || c == '\r' || c == '\n'

/-- A version has a character that is not blank and none that would end it early. -/
def version (field value : String) : Except Fault Unit := do
  notBlank field value
  if value.toList.any endsVersion then
    .error (.badValue field value "Version must not contain quotes or line breaks")
  else .ok ()

end Workbench.Check
