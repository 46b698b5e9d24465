import Std.Time
import Workbench.Tool

set_option autoImplicit false

/-!
# The command line

The first argument names a tool, the others are its arguments. The files that the tool may look at are
read before it runs, and those that it changed are written afterwards; the run itself is a function.
The command line can reach neither a rasterizer nor raw sockets, so that no file is a font to it and
no interface is there.

## Main definitions

* `Workbench.Shell.run` — a run of a tool.
-/

namespace Workbench.Shell

/-! ### Reading the surroundings -/

/-- What is at a location, as far as it can be read. -/
def entryAt? (location : Location) : IO (Option Entry) := do
  try
    let octets ← IO.FS.readBinFile ("/" ++ "/".intercalate location)
    pure (some (.file (.octets octets.toList)))
  catch
    | .inappropriateType _ 21 _ => pure (some .directory)
    | _ => pure none

/-- One name further on a path: where it leads to, and the locations on the way. -/
def advance (way : Location × List Location) (name : String) : Location × List Location :=
  if name = "" ∨ name = "." then way
  else if name = ".." then (way.1.dropLast, way.2)
  else (way.1 ++ [name], way.2 ++ [way.1 ++ [name]])

/-- The locations on the way of a path. -/
def along (start : Location) (path : String) : List Location :=
  let origin := if Path.isAbsolute path then [] else start
  ((Disk.names path).1.foldl advance (origin, [])).2

/-- A disk with what is on the way of a path. -/
def look (disk : Disk) (path : String) : IO Disk :=
  (along disk.start path).foldlM
    (fun disk location => do
      if (disk.entry? location).isSome then pure disk
      else
        match ← entryAt? location with
        | some entry => pure { disk with entries := disk.entries ++ [(location, entry)] }
        | none => pure disk)
    disk

/-- The environment of this process. -/
def readEnvironment : IO Environment := do
  let text ← IO.FS.readFile "/proc/self/environ"
  pure { entries := (text.splitOn "\x00").filter fun entry => !entry.isEmpty }

/-- The disk with nothing but the way to the current directory. -/
def currentDisk : IO Disk := do
  let names := (Disk.names (toString (← IO.currentDir))).1.filter fun name => !name.isEmpty
  pure (({ entries := [], start := names } : Disk).addDirectory names)

/-- The disk with the files that the font tool may look at. -/
def lookForFont (settings : FontTool.Settings) (disk : Disk) : IO Disk := do
  (settings.font :: settings.output.toList).foldlM look disk

/-- The disk with the files that the version tool may look at. -/
def lookForVersion (settings : VersionTool.Settings) (environment : Environment) (disk : Disk) :
    IO Disk := do
  let disk ← settings.targets.toList.foldlM look disk
  match settings.resolve environment disk with
  | .ok targets =>
    (targets.map fun target => Path.join settings.root target.path).foldlM look disk
  | .error _ => pure disk

/-- What a run of a tool can see. -/
def surroundings (tool : Tool) (arguments : List String) : IO Surroundings := do
  let environment ← readEnvironment
  let disk ← currentDisk
  let network : Network := { interfaces := [] }
  match tool with
  | .frame => pure { environment, disk, network }
  | .font =>
    match FontTool.Settings.read arguments with
    | .ok settings => pure { environment, disk := ← lookForFont settings disk, network }
    | .error _ => pure { environment, disk, network }
  | .version =>
    match VersionTool.Settings.read arguments with
    | .ok settings =>
      pure { environment, disk := ← lookForVersion settings environment disk, network }
    | .error _ => pure { environment, disk, network }

/-! ### Running -/

/-- Writes the files that differ between two disks. -/
def writeChanges (before after : Disk) : IO Unit :=
  after.entries.forM fun (location, entry) => do
    match entry with
    | .file (.octets bs) =>
      if before.entry? location ≠ some entry then
        IO.FS.writeBinFile ("/" ++ "/".intercalate location) bs.toByteArray
    | _ => pure ()

/-- What is said about refused arguments. -/
def refusalText : CommandLine.Refusal → String
  | .unknownArgument => "error: unexpected argument\n"
  | .missingValue => "error: a value is required\n"
  | .repeated => "error: an argument cannot be used multiple times\n"
  | .needlessValue => "error: unexpected value\n"
  | .rejectedValue => "error: invalid value\n"
  | .helpWanted => ""

/-- The time in the log. -/
def timeStamp : IO String := do
  let now := Std.Time.DateTime.ofTimestamp (← Std.Time.Timestamp.now) Std.Time.TimeZone.ZoneRules.UTC
  pure (now.format "uuuu-MM-dd'T'HH:mm:ss.SSSSSS'Z'")

/-- Prints a text, or tells why it was refused. How much of it was taken is not known. -/
def print (text : String) : IO (Option Printer.Refusal) := do
  try
    let output ← IO.getStdout
    output.putStr text
    output.flush
    pure none
  catch cause => pure (some { taken := 0, cause := .worded (toString cause) })

/-- A run of a tool. What it prints is tried out first; if that is refused, the run is one with a printer
that refuses. -/
def run (tool : Tool) (arguments : List String) : IO UInt32 := do
  let before ← surroundings tool arguments
  match tool.run arguments before with
  | .error refusal =>
    IO.eprint (refusalText refusal)
    pure (UInt32.ofNat refusal.exitStatus)
  | .ok (willing, _) =>
    let refusal ← print willing.output
    match tool.run arguments { before with printer := fun _ => refusal } with
    | .error refusal => pure (UInt32.ofNat refusal.exitStatus)
    | .ok (finish, after) =>
      writeChanges before.disk after.disk
      IO.eprint (before.report finish (← timeStamp))
      pure (UInt32.ofNat finish.status)

end Workbench.Shell

/-- Runs the tool that the first argument names. -/
def main (arguments : List String) : IO UInt32 := do
  match arguments with
  | [] =>
    IO.eprintln "usage: send-frame | font-to-array | update-version, with arguments"
    pure 2
  | name :: rest =>
    match Workbench.Tool.named? name with
    | some tool => Workbench.Shell.run tool rest
    | none =>
      IO.eprintln ("error: no tool is named " ++ name)
      pure 2
