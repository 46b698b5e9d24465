import Workbench.Check
import Workbench.CommandLine.Reading
import Workbench.Finish
import Workbench.Text.Quoted
import Workbench.Version.Document

set_option autoImplicit false

/-!
# Settings of the version tool

Which version is written where, and whether it is an error if a version line is missing.

## Main definitions

* `Workbench.VersionTool.Settings` — the settings.
* `Workbench.VersionTool.Settings.read` — the settings that arguments give.
* `Workbench.VersionTool.Settings.check` — whether they can be used.
* `Workbench.VersionTool.Settings.resolve` — the targets.
-/

namespace Workbench.VersionTool

/-- The settings of the version tool. -/
structure Settings where
  version : Option String
  /-- The directory that the paths of targets are taken from. -/
  root : String
  /-- The document of targets, if the built-in ones are not used. -/
  targets : Option String
  strict : Bool
  logJson : Bool
  verbose : Bool
  deriving DecidableEq, Repr

/-- What the version tool accepts. -/
def interface : CommandLine.Interface :=
  { parameters :=
      [ CommandLine.textParameter "root" none,
        CommandLine.textParameter "targets" none,
        CommandLine.switch "strict" none,
        CommandLine.switch "log-json" none,
        CommandLine.switch "verbose" (some 'v') ]
    operand := some "version" }

namespace Settings

/-- The settings for what was given. -/
def ofGiven (given : CommandLine.Given) : Settings :=
  { version := given.get? "version"
    root := given.getD "root" "."
    targets := given.get? "targets"
    strict := given.isOn "strict"
    logJson := given.isOn "log-json"
    verbose := given.isOn "verbose" }

/-- The settings that arguments give. -/
def read (arguments : List String) : Except CommandLine.Refusal Settings :=
  (interface.read arguments).map ofGiven

/-- The version, which must be given. -/
def wantedVersion (settings : Settings) : Except Fault String :=
  Check.present "version" settings.version

/-- The version can be written, the root can be a path, and the document is one by its name. -/
def check (settings : Settings) : Except Fault Unit := do
  Check.version "version" (← settings.wantedVersion)
  Check.path "root" settings.root
  match settings.targets with
  | some path => do
    Check.path "targets" path
    Check.fileExtension "targets" path ["toml"]
  | none => pure ()

/-- The targets: those of the document, or the built-in ones. -/
def resolve (settings : Settings) (environment : Environment) (disk : Disk) :
    Except Fault (List Target) :=
  match settings.targets with
  | some path => (targetsOfFile environment disk path).mapError Rejection.fault
  | none => .ok Target.builtin

/-- The settings as text. -/
def describe (settings : Settings) : String :=
  "VersionConfig \x7b version: " ++ Text.quotedOption settings.version
    ++ ", root: " ++ Text.quoted settings.root
    ++ ", targets: " ++ Text.quotedOption settings.targets
    ++ ", strict: " ++ showSwitch settings.strict
    ++ ", log_json: " ++ showSwitch settings.logJson
    ++ ", verbose: " ++ showSwitch settings.verbose ++ " \x7d"

/-- How events are laid out. -/
def layout (settings : Settings) : Layout := if settings.logJson then .json else .columns

/-- Whether more events are shown; in JSON there are never more. -/
def showsMore (settings : Settings) : Bool := settings.verbose && !settings.logJson

end Settings

end Workbench.VersionTool
