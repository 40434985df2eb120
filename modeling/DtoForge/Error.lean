/-
Faults.

A fault is a cause.  The wording stands in one place, and faults of a syntax or of the
file system have none here: their readers word them.
-/
namespace DtoForge

/-- Why settings cannot be used. -/
inductive InvalidSettings
  | noSchemaFile
  | schemaFileMissing (path : String)
  /-- Validators are decorators, and interfaces wear none. -/
  | validationOfInterfaces
  /-- Validators are a dependency. -/
  | validationWithoutDependencies
  deriving DecidableEq, Repr

namespace InvalidSettings

/-- The reason in words. -/
def reason : InvalidSettings → String
  | noSchemaFile => "schema_file is required"
  | schemaFileMissing path => "Schema file not found: " ++ path
  | validationOfInterfaces =>
    "To use class validation decorators, 'output_type' must be 'class'"
  | validationWithoutDependencies =>
    "To use class validation decorators, 'no_dependencies' must be false"

end InvalidSettings

/-- Why nothing is generated. -/
inductive Fault
  /-- The schema is no JSON text. -/
  | malformedSchema
  /-- The schema is a JSON text of another shape. -/
  | misshapenSchema
  /-- The configuration cannot be read. -/
  | badConfiguration
  | invalid (why : InvalidSettings)
  /-- A file cannot be read, or is not text. -/
  | unreadable
  /-- A field names a type that the schema does not declare. -/
  | unresolved (model field related : String)
  /-- A relation input was asked for without saying what it may do. -/
  | emptyRelationInput (model field : String)
  deriving DecidableEq, Repr

namespace Fault

/-- The fault in words, unless a reader of syntax or files words it. -/
def message? : Fault → Option String
  | malformedSchema => none
  | misshapenSchema =>
    some "Failed to parse DMMF: data did not match any variant of untagged enum DmmfInput"
  | badConfiguration => none
  | invalid why => some ("Validation error: " ++ why.reason)
  | unreadable => none
  | unresolved model field related =>
    some ("related type '" ++ related ++ "' for '" ++ model ++ "." ++ field ++ "' not found")
  | emptyRelationInput model field =>
    some ("Can not find relation input props for '" ++ model ++ "." ++ field ++ "'")

end Fault

end DtoForge
