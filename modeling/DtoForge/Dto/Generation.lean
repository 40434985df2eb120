/-
Everything that is generated for a data model.

Composite types come first and models after them, each in the order of the data model.
Of a composite type there is nothing to connect and no entity.  With indexes, there is one
for each directory at the end.
-/
import DtoForge.Dto.Connect
import DtoForge.Dto.Input
import DtoForge.Dto.Record

namespace DtoForge

/-! ### Files as data -/

namespace Dto

/-- The files of a model. -/
def ofModel (s : Settings) (dm : Datamodel) (m : Model) : Except Fault (List Dto) := do
  let create ← input s dm .onCreate m
  let update ← input s dm .onUpdate m
  let entity ← entity s dm m
  let plain ← plain s dm m
  .ok ((connect? s m).toList ++ [create, update, entity, plain])

/-- The files of a composite type. -/
def ofType (s : Settings) (dm : Datamodel) (t : Model) : Except Fault (List Dto) := do
  let create ← input s dm .onCreate t
  let update ← input s dm .onUpdate t
  let plain ← plain s dm t
  .ok [create, update, plain]

/-- The files of the data model's composite types and of the given models, without those
that are to be ignored. -/
def all (s : Settings) (dm : Datamodel) (models : List Model) : Except Fault (List Dto) := do
  let types ← (dm.types.filter (!·.isIgnored)).mapM (ofType s dm)
  let models ← (models.filter (!·.isIgnored)).mapM (ofModel s dm)
  .ok (types.flatten ++ models.flatten)

end Dto

/-! ### Indexes -/

/-- Puts a directory among ordered ones, unless it is there already.  Directories are
ordered by their components. -/
def putDirectory (dir : List String) : List (List String) → List (List String)
  | [] => [dir]
  | d :: rest =>
    if dir < d then dir :: d :: rest
    else if dir = d then d :: rest
    else d :: putDirectory dir rest

/-- The directories of files, each once, in order. -/
def directories (dtos : List Dto) : List (List String) :=
  dtos.foldl (fun dirs d => putDirectory d.directory dirs) []

/-- The index of a directory. -/
def indexOf (s : Settings) (dtos : List Dto) (dir : List String) : GeneratedFile where
  path := ModulePath.under s.outputDir (dir ++ ["index.ts"])
  content := indexText ((dtos.filter (·.directory == dir)).map (·.fileName))

/-! ### Files as text -/

/-- The file as it is written. -/
def Dto.file (s : Settings) (d : Dto) : GeneratedFile where
  path := ModulePath.under s.outputDir d.path
  content := d.text s.outputType

/-- The models that the settings take. -/
def selectedModels (s : Settings) (dm : Datamodel) : List Model :=
  dm.models.filter fun m => s.selects m.name

/-- Everything that is generated for a data model. -/
def generate (s : Settings) (dm : Datamodel) : Except Fault (List GeneratedFile) := do
  s.checkOptions
  let dtos ← Dto.all s dm (selectedModels s dm)
  .ok (dtos.map (Dto.file s)
    ++ (if s.reExport then (directories dtos).map (indexOf s dtos) else []))

end DtoForge
