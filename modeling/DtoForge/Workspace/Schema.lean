/-
Generating from the schema of a workspace.

The schema is the file that the settings name.  Generating may take the settings as they
are or check them first, and the check tells a missing schema apart from one that cannot
be read.
-/
import DtoForge.Dto.Generation
import DtoForge.Schema.Decode
import DtoForge.Workspace.Basic

namespace DtoForge.Workspace

/-- The data model of the schema. -/
def datamodel (ws : Workspace) (s : Settings) : Except Fault Datamodel := do
  let text ← ws.read s.schemaFile
  Datamodel.read text

/-- Whether the settings can be used in the workspace. -/
def check (ws : Workspace) (s : Settings) : Except Fault Unit :=
  s.check ws.isThere

/-- Everything that is generated for the schema. -/
def generate (ws : Workspace) (s : Settings) : Except Fault (List GeneratedFile) := do
  let dm ← ws.datamodel s
  DtoForge.generate s dm

/-- Everything that is generated for the schema once the settings are found usable. -/
def checkedGenerate (ws : Workspace) (s : Settings) : Except Fault (List GeneratedFile) := do
  ws.check s
  ws.generate s

end DtoForge.Workspace
