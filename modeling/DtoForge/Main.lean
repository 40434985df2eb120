/-
The program.

It looks up the few files that a run can ask for, runs, and prints.
-/
import DtoForge.CommandLine.Run

namespace DtoForge

/-- What a path leads to. -/
def entryAt (path : String) : IO Entry := do
  try
    let bytes ← IO.FS.readBinFile path
    return .file bytes.toList
  catch
    | .noFileOrDirectory .. => return .missing
    | _ => return .folder

/-- The workspace of the given paths. -/
def gather (paths : List String) : IO Workspace := do
  let entries ← paths.mapM fun path => return (path, ← entryAt path)
  return fun path => (entries.lookup path).getD .missing

/-- The variables of the process, one after each zero byte. -/
def environment : IO Settings.Environment := do
  let bytes ← try IO.FS.readBinFile "/proc/self/environ" catch _ => return []
  let texts := Text.splitAt '\x00' (Utf8.decode bytes.toList).toList
  return texts.filterMap fun text =>
    match text.dropWhile (· != '=') with
    | [] => none
    | _ :: value => some (String.ofList (text.takeWhile (· != '=')), String.ofList value)

/-- The paths at which the configuration may lie. -/
def configPaths (a : Arguments) : List String :=
  let name := a.config.getD Settings.defaultName
  [name, name ++ ".toml"]

/-- What the given words leave behind. -/
def outcome (words : List String) : IO Outcome := do
  let some a := Arguments.ofWords? words | return .misused
  let ws ← gather (configPaths a)
  match a.settings ws (← environment) with
  | .error f => return .ofPrinting (throw f)
  | .ok s => return .ofPrinting (a.perform (← gather [s.schemaFile]) s)

end DtoForge

def main (words : List String) : IO UInt32 := do
  let outcome ← DtoForge.outcome words
  IO.print outcome.stdout
  IO.eprint outcome.stderr
  return outcome.exit.toUInt32
