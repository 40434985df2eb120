/-
Settings as a table.

Each setting has a key.  A setting whose key is missing has its default, and keys of no
setting are ignored.
-/
import DtoForge.Settings.Basic
import DtoForge.Settings.Coercion

namespace DtoForge.Settings

/-- The entries of a configuration. -/
abbrev Entries := List (String × Toml)

/-- The value under a key, or the default if there is none. -/
def entry (read? : Toml → Option α) (key : String) (default : α) (entries : Entries) :
    Option α :=
  match entries.lookup key with
  | none => some default
  | some v => read? v

/-- The settings of a table. -/
def ofTable? (c : Coercion) (t : Entries) : Option Settings := do
  let d : Settings := {}
  let schemaFile ← entry c.text? "schema_file" d.schemaFile t
  let outputDir ← entry c.text? "output_dir" d.outputDir t
  let includeModels ← entry c.text? "include_models" d.includeModels t
  let excludeModels ← entry c.text? "exclude_models" d.excludeModels t
  let connectPrefix ← entry c.text? "connect_dto_prefix" d.connectPrefix t
  let createPrefix ← entry c.text? "create_dto_prefix" d.createPrefix t
  let updatePrefix ← entry c.text? "update_dto_prefix" d.updatePrefix t
  let dtoSuffix ← entry c.text? "dto_suffix" d.dtoSuffix t
  let entityPrefix ← entry c.text? "entity_prefix" d.entityPrefix t
  let entitySuffix ← entry c.text? "entity_suffix" d.entitySuffix t
  let outputType ←
    entry (fun v => c.word? v >>= OutputType.ofKeyword?) "output_type" d.outputType t
  let classValidation ← entry c.flag? "class_validation" d.classValidation t
  let noDependencies ← entry c.flag? "no_dependencies" d.noDependencies t
  let exportRelationInputs ←
    entry c.flag? "export_relation_modifier_classes" d.exportRelationInputs t
  let resourceStructure ←
    entry c.flag? "output_to_nestjs_resource_structure" d.resourceStructure t
  let reExport ← entry c.flag? "re_export" d.reExport t
  let logLevel ← entry (fun v => (c.text? v).map some) "log_level" d.logLevel t
  some { schemaFile, outputDir, includeModels, excludeModels, connectPrefix, createPrefix,
         updatePrefix, dtoSuffix, entityPrefix, entitySuffix, outputType, classValidation,
         noDependencies, exportRelationInputs, resourceStructure, reExport, logLevel }

end DtoForge.Settings
