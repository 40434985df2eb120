/-
Settings.

There are seventeen, each with a default.  Some of them exclude each other, and a run
that reads a schema needs one that exists.
-/
import DtoForge.Code.OutputType
import DtoForge.Error
import DtoForge.Text.Trim

namespace DtoForge

/-- What is generated, from where and to where. -/
structure Settings where
  /-- The file that holds the data model. -/
  schemaFile : String := ""
  /-- The root of the paths of generated files. -/
  outputDir : String := "./src/generated/nestjs-dto"
  /-- The models to take, between commas, or a star for all. -/
  includeModels : String := "*"
  /-- The models to leave out, between commas. -/
  excludeModels : String := ""
  connectPrefix : String := "Connect"
  createPrefix : String := "Create"
  updatePrefix : String := "Update"
  dtoSuffix : String := "Dto"
  entityPrefix : String := ""
  entitySuffix : String := ""
  outputType : OutputType := .classes
  /-- Decorate fields with validators. -/
  classValidation : Bool := false
  /-- Import nothing from outside the output directory. -/
  noDependencies : Bool := false
  /-- Export the classes of relation inputs. -/
  exportRelationInputs : Bool := true
  /-- Give each model a directory with one for inputs and one for the entity. -/
  resourceStructure : Bool := false
  /-- Add an index to each directory. -/
  reExport : Bool := false
  logLevel : Option String := none
  deriving DecidableEq, Repr

namespace Settings

/-! ### Validity -/

/-- Whether the options fit together. -/
def checkOptions (s : Settings) : Except Fault Unit :=
  if s.classValidation && s.outputType != .classes then
    .error (.invalid .validationOfInterfaces)
  else if s.classValidation && s.noDependencies then
    .error (.invalid .validationWithoutDependencies)
  else .ok ()

/-- Whether the settings can be used, where `isThere` says which paths exist. -/
def check (s : Settings) (isThere : String → Bool) : Except Fault Unit :=
  if s.schemaFile.isEmpty then .error (.invalid .noSchemaFile)
  else if !isThere s.schemaFile then .error (.invalid (.schemaFileMissing s.schemaFile))
  else s.checkOptions

/-! ### Which models -/

/-- The names between commas, without the white space around them. -/
def namesIn (list : String) : List String :=
  (Text.splitAt ',' list.toList).map fun name => String.ofList (Text.trim name)

/-- Whether a list of names stands for all.  The empty list does, and so does a star. -/
def isAll (list : String) : Bool :=
  let name := Text.trim list.toList
  name.isEmpty || name == ['*']

/-- Whether the settings take a model of the given name. -/
def selects (s : Settings) (name : String) : Bool :=
  (isAll s.includeModels || (namesIn s.includeModels).contains name)
    && !((namesIn s.excludeModels).filter (· != "")).contains name

end Settings

end DtoForge
