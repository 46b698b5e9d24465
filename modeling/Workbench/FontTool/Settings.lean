import Workbench.Check
import Workbench.CommandLine.Reading
import Workbench.Finish
import Workbench.Font.Listing
import Workbench.Text.Quoted

set_option autoImplicit false

/-!
# Settings of the font tool

Which font is drawn at which size, and as what it is listed where.

## Main definitions

* `Workbench.FontTool.Settings` — the settings.
* `Workbench.FontTool.Settings.read` — the settings that arguments give.
* `Workbench.FontTool.Settings.check` — whether they can be used.
-/

namespace Workbench.FontTool

/-- The settings of the font tool. -/
structure Settings where
  font : String
  pixelSize : Nat
  format : String
  name : String
  elementType : String
  /-- The file that the listing goes to; it is printed if there is none. -/
  output : Option String
  verbose : Bool
  deriving DecidableEq, Repr

/-- The pixel size that a text is written for. -/
def pixelSize? (text : String) : Option Nat :=
  match Text.readInteger text.toList with
  | .ok n => if 0 ≤ n ∧ n < Int.ofNat (Nat.pow 2 32) then some n.toNat else none
  | .error _ => none

/-- What the font tool accepts. -/
def interface : CommandLine.Interface :=
  { parameters :=
      [ CommandLine.textParameter "font" (some 'f'),
        { name := "pixel-size", role := .valued fun text => (pixelSize? text).isSome },
        CommandLine.textParameter "format" none,
        CommandLine.textParameter "name" none,
        CommandLine.textParameter "element-type" none,
        CommandLine.textParameter "output" (some 'o'),
        CommandLine.switch "verbose" (some 'v') ] }

namespace Settings

/-- The settings for what was given. -/
def ofGiven (given : CommandLine.Given) : Settings :=
  { font := given.getD "font" "BmPlus_IBM_VGA_8x16-2x.otb"
    pixelSize := ((given.get? "pixel-size").bind pixelSize?).getD 16
    format := given.getD "format" "c"
    name := given.getD "name" "font"
    elementType := given.getD "element-type" "U8"
    output := given.get? "output"
    verbose := given.isOn "verbose" }

/-- The settings that arguments give. -/
def read (arguments : List String) : Except CommandLine.Refusal Settings :=
  (interface.read arguments).map ofGiven

/-- The form of the listing. -/
def listingFormat (settings : Settings) : Except Fault Listing.Format :=
  Listing.Format.read settings.format

/-- The identifiers in the listing. -/
def names (settings : Settings) : Listing.Names :=
  { name := settings.name, elementType := settings.elementType }

/-- The paths can be paths, the size is one that glyphs can have, the form exists, and the
identifiers are not blank. -/
def check (settings : Settings) : Except Fault Unit := do
  Check.path "font" settings.font
  Check.inRange "pixel_size" settings.pixelSize 1 256
  let _ ← settings.listingFormat
  Check.notBlank "name" settings.name
  Check.notBlank "element_type" settings.elementType
  match settings.output with
  | some path => Check.path "output" path
  | none => pure ()

/-- The settings as text. -/
def describe (settings : Settings) : String :=
  "FontConfig \x7b font: " ++ Text.quoted settings.font
    ++ ", pixel_size: " ++ toString settings.pixelSize
    ++ ", format: " ++ Text.quoted settings.format
    ++ ", name: " ++ Text.quoted settings.name
    ++ ", element_type: " ++ Text.quoted settings.elementType
    ++ ", output: " ++ Text.quotedOption settings.output
    ++ ", verbose: " ++ showSwitch settings.verbose ++ " \x7d"

end Settings

end Workbench.FontTool
