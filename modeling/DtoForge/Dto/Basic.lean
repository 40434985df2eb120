/-
Generated files as data.
-/
import DtoForge.Code.Import
import DtoForge.Code.SourceFile
import DtoForge.Dto.Naming

namespace DtoForge

/-- A file before it is printed. -/
structure Dto where
  kind : DtoKind
  className : String
  /-- The directory below the output root. -/
  directory : List String
  fileName : String
  members : List Member
  imports : List Import
  /-- The classes of relation inputs. -/
  helpers : List ClassDecl
  /-- Classes that the documented API mentions only through this file's class. -/
  extraModels : List String
  deriving DecidableEq, Repr

namespace Dto

/-- The path below the output root. -/
def path (d : Dto) : List String :=
  d.directory ++ [d.fileName]

/-- The declarations of the file, its own class last. -/
def declarations (d : Dto) : List ClassDecl :=
  d.helpers ++ [⟨d.className, d.members, true, d.extraModels⟩]

/-- The text of the file. -/
def text (out : OutputType) (d : Dto) : String :=
  fileText out d.imports d.declarations

end Dto

end DtoForge
