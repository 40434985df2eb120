/-
Settings one by one.

Settings are read from a table key by key, each key by itself, so settings are told by the
value under each of the seventeen keys.  Values come in four kinds, and how a value is read
depends on its kind alone: what holds of reading is four cases, whatever the key.
-/
import DtoForge.Settings.Table

namespace DtoForge

/-! ### Kinds of values -/

/-- What a setting can hold. -/
inductive Setting.Kind
  | text
  | flag
  | form
  | level
  deriving DecidableEq, Repr

namespace Setting.Kind

/-- The values of a kind.  A level may be left open. -/
@[reducible] def Value : Kind → Type
  | text => String
  | flag => Bool
  | form => OutputType
  | level => Option String

/-- The value that an entry of a configuration stands for. -/
def read? (c : Coercion) : (kind : Kind) → Toml → Option kind.Value
  | text => c.text?
  | flag => c.flag?
  | form => fun v => c.word? v >>= OutputType.ofKeyword?
  | level => fun v => (c.text? v).map some

/-- The value that a text on its own stands for. -/
def decode? : (kind : Kind) → String → Option kind.Value
  | text => some
  | flag => Coercion.flagOfText?
  | form => OutputType.ofKeyword?
  | level => fun s => some (some s)

theorem read?_lenient_string (kind : Kind) (s : String) :
    kind.read? .lenient (.string s) = kind.decode? s := by
  cases kind <;> rfl

end Setting.Kind

namespace Coercion

/-! ### Values at their word -/

theorem eq_string_of_exactText? {v : Toml} {s : String} (h : exactText? v = some s) :
    v = .string s := by
  cases v <;> simp_all [exactText?]

theorem eq_boolean_of_exactFlag? {v : Toml} {b : Bool} (h : exactFlag? v = some b) :
    v = .boolean b := by
  cases v <;> simp_all [exactFlag?]

/-- A word at its word is itself wherever words are read, and holds no integer. -/
theorem of_exactWord? {v : Toml} {s : String} (h : exactWord? v = some s) :
    anyWord? v = some s ∧ v.isNarrow = true := by
  unfold exactWord? at h
  split at h <;>
    simp_all [anyWord?, Toml.isNarrow, Toml.areNarrow, Toml.entriesAreNarrow]

end Coercion

namespace Setting.Kind

/-- A value at its word stands for what it says, however far values are stretched, and holds
no integer. -/
theorem of_strict {kind : Kind} {v : Toml} {x : kind.Value} (h : kind.read? .strict v = some x) :
    kind.read? .lenient v = some x ∧ v.isNarrow = true := by
  cases kind with
  | text =>
      cases Coercion.eq_string_of_exactText? h
      exact ⟨rfl, rfl⟩
  | flag =>
      cases Coercion.eq_boolean_of_exactFlag? h
      exact ⟨rfl, rfl⟩
  | form =>
      obtain ⟨word, hword, hx⟩ := Option.bind_eq_some_iff.mp h
      obtain ⟨hany, hnarrow⟩ := Coercion.of_exactWord? hword
      exact ⟨Option.bind_eq_some_iff.mpr ⟨word, hany, hx⟩, hnarrow⟩
  | level =>
      obtain ⟨s, hs, hx⟩ := Option.map_eq_some_iff.mp h
      cases Coercion.eq_string_of_exactText? hs
      exact ⟨congrArg some hx, rfl⟩

end Setting.Kind

/-! ### Keys -/

/-- The settings by name. -/
inductive Setting
  | schemaFile
  | outputDir
  | includeModels
  | excludeModels
  | connectPrefix
  | createPrefix
  | updatePrefix
  | dtoSuffix
  | entityPrefix
  | entitySuffix
  | outputType
  | classValidation
  | noDependencies
  | exportRelationInputs
  | resourceStructure
  | reExport
  | logLevel
  deriving DecidableEq, Repr

namespace Setting

/-- The key of a setting. -/
def key : Setting → String
  | schemaFile => "schema_file"
  | outputDir => "output_dir"
  | includeModels => "include_models"
  | excludeModels => "exclude_models"
  | connectPrefix => "connect_dto_prefix"
  | createPrefix => "create_dto_prefix"
  | updatePrefix => "update_dto_prefix"
  | dtoSuffix => "dto_suffix"
  | entityPrefix => "entity_prefix"
  | entitySuffix => "entity_suffix"
  | outputType => "output_type"
  | classValidation => "class_validation"
  | noDependencies => "no_dependencies"
  | exportRelationInputs => "export_relation_modifier_classes"
  | resourceStructure => "output_to_nestjs_resource_structure"
  | reExport => "re_export"
  | logLevel => "log_level"

theorem key_injective {k l : Setting} (h : k.key = l.key) : k = l := by
  cases k <;> cases l <;> simp_all [key]

/-- The kind of its values. -/
def kind : Setting → Kind
  | outputType => .form
  | classValidation | noDependencies | exportRelationInputs | resourceStructure | reExport =>
    .flag
  | logLevel => .level
  | _ => .text

end Setting

namespace Settings

/-- The value of a setting. -/
def get (s : Settings) : (k : Setting) → k.kind.Value
  | .schemaFile => s.schemaFile
  | .outputDir => s.outputDir
  | .includeModels => s.includeModels
  | .excludeModels => s.excludeModels
  | .connectPrefix => s.connectPrefix
  | .createPrefix => s.createPrefix
  | .updatePrefix => s.updatePrefix
  | .dtoSuffix => s.dtoSuffix
  | .entityPrefix => s.entityPrefix
  | .entitySuffix => s.entitySuffix
  | .outputType => s.outputType
  | .classValidation => s.classValidation
  | .noDependencies => s.noDependencies
  | .exportRelationInputs => s.exportRelationInputs
  | .resourceStructure => s.resourceStructure
  | .reExport => s.reExport
  | .logLevel => s.logLevel

/-- The settings with a value for each. -/
def ofValues (f : (k : Setting) → k.kind.Value) : Settings where
  schemaFile := f .schemaFile
  outputDir := f .outputDir
  includeModels := f .includeModels
  excludeModels := f .excludeModels
  connectPrefix := f .connectPrefix
  createPrefix := f .createPrefix
  updatePrefix := f .updatePrefix
  dtoSuffix := f .dtoSuffix
  entityPrefix := f .entityPrefix
  entitySuffix := f .entitySuffix
  outputType := f .outputType
  classValidation := f .classValidation
  noDependencies := f .noDependencies
  exportRelationInputs := f .exportRelationInputs
  resourceStructure := f .resourceStructure
  reExport := f .reExport
  logLevel := f .logLevel

theorem get_ofValues (f : (k : Setting) → k.kind.Value) (k : Setting) :
    (ofValues f).get k = f k := by
  cases k <;> rfl

/-! ### Reading a table -/

/-- What a table says about a setting. -/
def valueIn? (c : Coercion) (t : Entries) (k : Setting) : Option k.kind.Value :=
  entry (k.kind.read? c) k.key (({} : Settings).get k) t

private theorem bind_of_eq_some {o : Option α} {g : α → Option β} {a : α} {r : Option β}
    (ho : o = some a) (hg : g a = r) : (o >>= g) = r := by
  rw [ho]
  exact hg

theorem ofTable?_eq_ofValues {c : Coercion} {t : Entries} {f : (k : Setting) → k.kind.Value}
    (h : ∀ k, valueIn? c t k = some (f k)) : ofTable? c t = some (ofValues f) := by
  unfold ofTable?
  exact bind_of_eq_some (h .schemaFile) <| bind_of_eq_some (h .outputDir) <|
    bind_of_eq_some (h .includeModels) <| bind_of_eq_some (h .excludeModels) <|
    bind_of_eq_some (h .connectPrefix) <| bind_of_eq_some (h .createPrefix) <|
    bind_of_eq_some (h .updatePrefix) <| bind_of_eq_some (h .dtoSuffix) <|
    bind_of_eq_some (h .entityPrefix) <| bind_of_eq_some (h .entitySuffix) <|
    bind_of_eq_some (h .outputType) <| bind_of_eq_some (h .classValidation) <|
    bind_of_eq_some (h .noDependencies) <| bind_of_eq_some (h .exportRelationInputs) <|
    bind_of_eq_some (h .resourceStructure) <| bind_of_eq_some (h .reExport) <|
    bind_of_eq_some (h .logLevel) rfl

/-- Settings can be read where each of them can, and each is what is read for it. -/
theorem exists_ofTable? {c : Coercion} {t : Entries} {P : (k : Setting) → k.kind.Value → Prop}
    (h : ∀ k, ∃ x, valueIn? c t k = some x ∧ P k x) :
    ∃ s, ofTable? c t = some s ∧ ∀ k, P k (s.get k) := by
  obtain ⟨f, hf⟩ := Classical.axiomOfChoice h
  refine ⟨ofValues f, ofTable?_eq_ofValues fun k => (hf k).1, fun k => ?_⟩
  rw [get_ofValues]
  exact (hf k).2

end Settings

end DtoForge
