/-
Finding and reading settings.

Settings come from one file that is taken at its word, or from a file and the environment
together, where the environment overrides the file.  In the second case the file may be
left unnamed, and then it need not exist, and no integer in it, under whatever key, is
wider than 64 bits.
-/
import DtoForge.Settings.Environment
import DtoForge.Toml.Document
import DtoForge.Workspace.Basic

namespace DtoForge.Settings

/-! ### One file -/

/-- What is read, or that the configuration is bad. -/
def orBad : Option α → Except Fault α
  | some a => .ok a
  | none => .error .badConfiguration

/-- The settings of a file. -/
def fromFile (ws : Workspace) (path : String) : Except Fault Settings := do
  let text ← ws.read path
  orBad (Toml.read? text >>= ofTable? .strict)

/-! ### Finding the file -/

/-- Whether the last component of a path has more than the ending `.toml`. -/
def hasTomlEnding (path : String) : Bool :=
  match ".toml".toList.reverse.isPrefixOf? path.toList.reverse with
  | some (c :: _) => c != '/'
  | _ => false

/-- The path of a configuration file, with its ending or without.  A file of the very name
comes first, and it has to have the ending. -/
def locate? (ws : Workspace) (name : String) : Option String :=
  if (ws.bytes? name).isSome then if hasTomlEnding name then some name else none
  else
    let full := name ++ ".toml"
    if (ws.bytes? full).isSome then some full else none

/-- The bytes without a byte order mark at their start. -/
def dropMark : List UInt8 → List UInt8
  | 0xEF :: 0xBB :: 0xBF :: r => r
  | bytes => bytes

/-- The entries of the file at a path, in which no integer is wide. -/
def entriesAt? (ws : Workspace) (path : String) : Option Entries := do
  let bytes ← ws.bytes? path
  let entries ← Toml.read? (Utf8.decode (dropMark bytes))
  if Toml.entriesAreNarrow entries then some entries else none

/-! ### File and environment -/

/-- The name of the file where none is given. -/
def defaultName : String := "nestjs-dto-codegen"

/-- The entries of the configuration file.  One that is named has to be there. -/
def fileEntries? (ws : Workspace) : Option String → Option Entries
  | some name => locate? ws name >>= entriesAt? ws
  | none =>
    match locate? ws defaultName with
    | some path => entriesAt? ws path
    | none => some []

/-- The settings of a file and the environment. -/
def load (ws : Workspace) (env : Environment) (name : Option String) :
    Except Fault Settings :=
  orBad ((fileEntries? ws name).bind fun entries =>
    ofTable? .lenient (override env entries))

end DtoForge.Settings
