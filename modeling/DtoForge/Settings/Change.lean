/-
Changing settings step by step.

A change names what it sets and leaves everything else as it was, so of several changes to
one setting the last one counts.
-/
import DtoForge.Settings.Basic

namespace DtoForge

/-- A change of settings. -/
inductive Change
  | outputDir (path : String)
  | includeModels (names : List String)
  | excludeModels (names : List String)
  | outputType (form : OutputType)
  | classValidation (isOn : Bool)
  | noDependencies (isOn : Bool)
  | dtoSuffix (suffix : String)
  | entityAffixes (before after : String)
  | resourceStructure
  | reExport
  deriving DecidableEq, Repr

namespace Settings

/-- The settings for a schema, with defaults for everything else. -/
def ofSchema (schemaFile : String) : Settings :=
  { schemaFile }

/-- The settings after a change.  Names are kept as one text with commas between them. -/
def apply (s : Settings) : Change → Settings
  | .outputDir path => { s with outputDir := path }
  | .includeModels names => { s with includeModels := ",".intercalate names }
  | .excludeModels names => { s with excludeModels := ",".intercalate names }
  | .outputType form => { s with outputType := form }
  | .classValidation isOn => { s with classValidation := isOn }
  | .noDependencies isOn => { s with noDependencies := isOn }
  | .dtoSuffix suffix => { s with dtoSuffix := suffix }
  | .entityAffixes before after => { s with entityPrefix := before, entitySuffix := after }
  | .resourceStructure => { s with resourceStructure := true }
  | .reExport => { s with reExport := true }

/-- The settings after changes, one after the other. -/
def applyAll (s : Settings) (changes : List Change) : Settings :=
  changes.foldl apply s

end Settings

end DtoForge
