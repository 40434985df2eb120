/-
The files that a run can see.

A run reads files and never writes one, so all it needs is what each path leads to.
-/
import DtoForge.Error
import DtoForge.Text.Utf8

namespace DtoForge

/-- What a path leads to. -/
inductive Entry
  | missing
  | folder
  | file (bytes : List UInt8)
  deriving DecidableEq, Repr

/-- What each path leads to. -/
abbrev Workspace := String → Entry

namespace Workspace

/-- Whether there is something at a path. -/
def isThere (ws : Workspace) (path : String) : Bool :=
  ws path != .missing

/-- The bytes of a file. -/
def bytes? (ws : Workspace) (path : String) : Option (List UInt8) :=
  match ws path with
  | .file bytes => some bytes
  | _ => none

/-- The text of a file. -/
def read (ws : Workspace) (path : String) : Except Fault String :=
  match (ws.bytes? path).bind Utf8.decode? with
  | some text => .ok text
  | none => .error .unreadable

end Workspace

end DtoForge
