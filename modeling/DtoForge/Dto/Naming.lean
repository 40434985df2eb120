/-
The names of what is generated.

Each model gives up to five outputs.  The kind of an output and the name of its model
decide the class, the file and the directory, and nothing else does.
-/
import DtoForge.Settings.Basic
import DtoForge.Text.Words

namespace DtoForge

/-- The kinds of generated files. -/
inductive DtoKind
  /-- How an existing record is named. -/
  | connect
  /-- What creates a record. -/
  | create
  /-- What updates a record. -/
  | update
  /-- A record without its relations. -/
  | plain
  /-- A record with its relations. -/
  | entity
  deriving DecidableEq, Repr

namespace DtoKind

/-- The file of a kind for a name. -/
def fileName (kind : DtoKind) (name : String) : String :=
  match kind with
  | connect => "connect-" ++ fileBase name ++ ".dto.ts"
  | create => "create-" ++ fileBase name ++ ".dto.ts"
  | update => "update-" ++ fileBase name ++ ".dto.ts"
  | plain => fileBase name ++ ".dto.ts"
  | entity => fileBase name ++ ".entity.ts"

/-- The directory of a kind inside the one of its model. -/
def folder : DtoKind → String
  | entity => "entities"
  | _ => "dto"

end DtoKind

namespace Settings

/-- The class of a kind for a name. -/
def className (s : Settings) (kind : DtoKind) (name : String) : String :=
  match kind with
  | .connect => s.connectPrefix ++ classBase name ++ s.dtoSuffix
  | .create => s.createPrefix ++ classBase name ++ s.dtoSuffix
  | .update => s.updatePrefix ++ classBase name ++ s.dtoSuffix
  | .plain => classBase name ++ s.dtoSuffix
  | .entity => s.entityPrefix ++ classBase name ++ s.entitySuffix

/-- The directory of a kind for a name, below the output root.  A name without letters and
digits has no directory of its own. -/
def directory (s : Settings) (kind : DtoKind) (name : String) : List String :=
  if s.resourceStructure then [fileBase name, kind.folder].filter (· != "") else []

end Settings

end DtoForge
