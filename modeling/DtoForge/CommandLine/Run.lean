/-
A run of the command line.

The configuration is loaded, the arguments take the place of what it says about paths, the
settings are checked, and only then is anything generated.  A run that fails leaves its fault
behind what it has printed.
-/
import DtoForge.CommandLine.Report
import DtoForge.Settings.Load

namespace DtoForge

/-- What a run leaves behind. -/
structure Outcome where
  exit : Nat
  stdout : String
  stderr : String
  deriving DecidableEq, Repr

namespace Outcome

/-- The fault in words, also where its reader words it. -/
def faultText (f : Fault) : String :=
  f.message?.getD <| match f with
    | .malformedSchema => "The schema is not JSON"
    | .badConfiguration => "The configuration cannot be used"
    | _ => "A file cannot be read"

/-- The outcome of a run that knew what to do. -/
def ofPrinting (run : Printing Unit) : Outcome :=
  match run.after "" with
  | (.ok (), printed) => ⟨0, printed, ""⟩
  | (.error f, printed) => ⟨1, printed, "Error: " ++ faultText f ++ "\n"⟩

/-- The outcome of a run with arguments that make no sense. -/
def misused : Outcome :=
  ⟨2, "", "usage: [--config FILE] [--schema FILE] [--output DIR] [render | list | inspect]\n"⟩

end Outcome

namespace Arguments

/-- The settings with paths from the arguments. -/
def overridePaths (a : Arguments) (s : Settings) : Settings :=
  { s with
    schemaFile := a.schema.getD s.schemaFile
    outputDir := a.output.getD s.outputDir }

/-- The settings of a run. -/
def settings (a : Arguments) (ws : Workspace) (env : Settings.Environment) :
    Except Fault Settings :=
  (Settings.load ws env a.config).map a.overridePaths

/-- A run with the settings given. -/
def perform (a : Arguments) (ws : Workspace) (s : Settings) : Printing Unit := do
  ws.check s
  Report.perform ws s a.command

/-- A run. -/
def run (a : Arguments) (ws : Workspace) (env : Settings.Environment) : Printing Unit := do
  let s ← a.settings ws env
  a.perform ws s

end Arguments

/-- What a command line leaves behind. -/
def runWords (words : List String) (ws : Workspace) (env : Settings.Environment) : Outcome :=
  match Arguments.ofWords? words with
  | none => .misused
  | some a => .ofPrinting (a.run ws env)

end DtoForge
