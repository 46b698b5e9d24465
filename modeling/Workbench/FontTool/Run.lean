import Workbench.Disk.Tree
import Workbench.FontTool.Settings

set_option autoImplicit false

/-!
# The font tool

The tool draws all glyphs of a font and lists them, as a file or in print. Glyphs that cannot be drawn
are blank; nothing else than settings, the font, the file and the printer can make it fail. Then nothing
is written, and nothing is printed but what the printer has taken before it refuses the rest.

## Main definitions

* `Workbench.FontTool.Failure` — why there is no listing.
* `Workbench.FontTool.listing` — the listing of a font.
* `Workbench.FontTool.run` — a whole run.
-/

namespace Workbench.FontTool

/-- Why there is no listing although the settings are good. -/
inductive Failure where
  /-- The font cannot be used. -/
  | load (path : String) (cause : FontError)
  /-- The listing cannot be rendered. -/
  | render (fault : Fault)
  /-- The file cannot be written. -/
  | write (path : String) (cause : SystemError)
  /-- The listing cannot be printed. -/
  | print (cause : SystemError)
  deriving DecidableEq, Repr

/-- A failure with the causes behind it, numbered if there are several. -/
def Failure.report : Failure → String
  | load path cause =>
    "Error: failed to load font '" ++ path ++ "'\n\nCaused by:\n    0: "
      ++ (Fault.font cause).message ++ "\n    1: " ++ cause.message ++ "\n"
  | render fault => "Error: " ++ fault.message ++ "\n"
  | write path cause =>
    "Error: failed to write " ++ path ++ "\n\nCaused by:\n    " ++ cause.message ++ "\n"
  | print cause => "Error: " ++ cause.message ++ "\n"

/-- The listing of a font and the events on the way to it. -/
def listing (settings : Settings) (font : Strike) : Except Failure String × List Event :=
  let (table, events, _) := GlyphTable.convert font.raster ()
  match settings.listingFormat with
  | .error fault => (.error (.render fault), events)
  | .ok format => (.ok (Listing.render format settings.names table.glyphs), events)

/-- The event that a listing was written. -/
def written (path : String) : Note :=
  .event
    { level := .info
      component := .fontTool
      message := "📁 Glyph table written to: " ++ path }

/-- The end of a run that fails after its settings were checked. -/
def failure (settings : Settings) (notes : List Note) (cause : Failure) : Finish :=
  { status := 1, notes := notes ++ [.message cause.report], isVerbose := settings.verbose }

/-- Delivers a listing: into the file of the settings, or in print. -/
def deliver (settings : Settings) (printer : Printer) (disk : Disk) (notes : List Note)
    (text : String) : Finish × Disk :=
  match settings.output with
  | none =>
    match printer text.toUTF8.toList with
    | some refusal =>
      ({ failure settings notes (.print refusal.cause) with output := text, cut := refusal.taken },
        disk)
    | none => ({ status := 0, output := text, notes, isVerbose := settings.verbose }, disk)
  | some path =>
    match disk.writeText path text with
    | .error cause => (failure settings notes (.write path cause), disk)
    | .ok after =>
      ({ status := 0, notes := notes ++ [written path], isVerbose := settings.verbose }, after)

/-- A whole run, with the disk as it leaves it. -/
def run (settings : Settings) (printer : Printer) (disk : Disk) : Finish × Disk :=
  let start := [announcing .fontTool settings.describe]
  match settings.check with
  | .error fault =>
    ({ status := 1
       notes := start ++ [fault.rejecting .fontTool, fault.tell, fault.advise]
       isVerbose := settings.verbose },
      disk)
  | .ok () =>
    match disk.openFont settings.font settings.pixelSize with
    | .error cause => (failure settings start (.load settings.font cause), disk)
    | .ok font =>
      let (result, events) := listing settings font
      let notes :=
        start ++ (Strike.loaded settings.font settings.pixelSize :: events).map .event
      match result with
      | .error cause => (failure settings notes cause, disk)
      | .ok text => deliver settings printer disk notes text

end Workbench.FontTool
