import Workbench.FontError
import Workbench.SystemError
import Workbench.Text.Remark

set_option autoImplicit false

/-!
# Faults

Everything that can go wrong in the tools, as causes. A fault has a message, a category, a severity, a
headline for the user, a piece of advice and an exit status; all of them are functions of the cause.

## Main definitions

* `Workbench.Fault` — the causes.
* `Workbench.Fault.message`, `Workbench.Fault.headline`, `Workbench.Fault.advice` — the texts.
* `Workbench.Fault.category`, `Workbench.Fault.severity` — the classification.
* `Workbench.Severity.exitStatus` — the exit status of a severity.
-/

namespace Workbench

/-! ### Causes -/

/-- The causes of failure. -/
inductive Fault where
  /-- A file could not be read or written. -/
  | file (cause : SystemError)
  /-- A value could not be written in the chosen format. -/
  | serialization (remark : Text.Remark)
  /-- The font could not be used. -/
  | font (cause : FontError)
  /-- The settings are wrong as a whole. -/
  | settings (detail : String)
  /-- A part of the settings is wrong. -/
  | settingsPart (field detail : String)
  /-- A required setting is absent. -/
  | missing (field : String)
  /-- A setting has a value that is not accepted. -/
  | badValue (field value reason : String)
  /-- A text is not a hardware address. -/
  | badAddress (value : String)
  /-- Octets are not a frame. -/
  | badFrame (detail : String)
  /-- There is no interface of that name. -/
  | noInterface (name : String)
  /-- The interface cannot be used. -/
  | interfaceTrouble (name detail : String)
  /-- The interface did not take a frame. -/
  | transmission (name detail : String)
  /-- A glyph cannot be rendered. -/
  | glyph (code : Nat) (detail : String)
  /-- No line of a file starts as its target says. -/
  | leadNotFound (path lead : String)
  deriving DecidableEq, Repr

/-- The areas that causes belong to. -/
inductive Category where
  | io | configuration | network | font | content
  deriving DecidableEq, Repr

/-- The names of the areas. -/
def Category.name : Category → String
  | .io => "Io"
  | .configuration => "Configuration"
  | .network => "Network"
  | .font => "Font"
  | .content => "Content"

/-- How bad a fault is. -/
inductive Severity where
  | low | medium | high | critical
  deriving DecidableEq, Repr

/-- The names of the severities. -/
def Severity.name : Severity → String
  | .low => "Low"
  | .medium => "Medium"
  | .high => "High"
  | .critical => "Critical"

/-- The exit status of a severity. -/
def Severity.exitStatus : Severity → Nat
  | .low => 0
  | .medium => 2
  | .high => 1
  | .critical => 3

namespace Fault

/-! ### Texts -/

/-- The full wording of a fault. -/
def message : Fault → String
  | file cause => "IO error: " ++ cause.message
  | serialization remark => "Serialization error: " ++ remark.display
  | font cause => "FreeType error: " ++ cause.message
  | settings detail => "Configuration error: " ++ detail
  | settingsPart field detail =>
    "Configuration validation error in '" ++ field ++ "': " ++ detail
  | missing field => "Missing required configuration: " ++ field
  | badValue field value reason =>
    "Invalid value '" ++ value ++ "' for '" ++ field ++ "': " ++ reason
  | badAddress value => "Invalid MAC address '" ++ value ++ "'"
  | badFrame detail => "Malformed frame: " ++ detail
  | noInterface name => "Network interface '" ++ name ++ "' not found"
  | interfaceTrouble name detail => "Network interface '" ++ name ++ "': " ++ detail
  | transmission name detail =>
    "Failed to transmit frame on '" ++ name ++ "': " ++ detail
  | glyph code detail => "Glyph " ++ Text.hexMarked 2 code ++ " unavailable: " ++ detail
  | leadNotFound path lead => "Prefix '" ++ lead ++ "' not found in " ++ path

/-- The line that a user sees first. -/
def headline : Fault → String
  | file cause => "File operation failed: " ++ cause.message
  | noInterface name => "No network interface named '" ++ name ++ "'"
  | badValue field _ reason => "Invalid " ++ field ++ ": " ++ reason
  | fault => fault.message

/-- What a user can do about a fault. -/
def advice : Fault → String
  | file _ => "Check that the file exists and is readable/writable"
  | serialization _ => "Try a different --format"
  | font _ => "Check the --font path and that FreeType supports the font format"
  | settings _ | settingsPart .. | missing _ | badValue .. =>
    "Run with --help to see the accepted arguments"
  | badAddress _ => "Use six hex octets separated by ':' (e.g. 52:54:00:12:34:56)"
  | badFrame _ => "Check the frame length and header fields"
  | noInterface name =>
    "Create the interface first (e.g. `ip tuntap add dev " ++ name
      ++ " mode tap`) or pick another with --interface"
  | interfaceTrouble .. | transmission .. =>
    "Raw sockets need CAP_NET_RAW; try running as root"
  | glyph .. => "The glyph is emitted as blank rows"
  | leadNotFound path _ => "Add a version line to " ++ path ++ " or drop --strict"

/-! ### Classification -/

/-- The area of a fault. -/
def category : Fault → Category
  | file _ | serialization _ => .io
  | font _ | glyph .. => .font
  | settings _ | settingsPart .. | missing _ | badValue .. | badAddress _ => .configuration
  | badFrame _ | noInterface _ | interfaceTrouble .. | transmission .. => .network
  | leadNotFound .. => .content

/-- The severity of a fault. -/
def severity : Fault → Severity
  | glyph .. => .low
  | transmission .. | leadNotFound .. => .medium
  | file _ | interfaceTrouble .. => .critical
  | _ => .high

/-- The exit status that a fault stands for. -/
def exitStatus (fault : Fault) : Nat := fault.severity.exitStatus

end Fault

end Workbench
