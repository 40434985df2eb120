/-
The names of the documentation options of a field.

The options are an object, so no name may stand twice.  Each source keeps an order of its own
and writes under names of its own, and the sources follow one another: whatever the field, the
names come in one fixed order, and none of them twice.

Of the four sources only one reads the documentation.  What stands under the names of the
others is the same for all texts.
-/
import DtoForge.Proofs.ApiDoc.FieldOptions

namespace DtoForge

/-- A value that stands for itself in a schema.  A call of a database function does not. -/
inductive Json.IsConstant : Json → Prop
  | string (s : String) : IsConstant (.string s)
  | number (n : JsonNumber) : IsConstant (.number n)
  | bool (b : Bool) : IsConstant (.bool b)
  | array (items : List Json) : IsConstant (.array items)

namespace ApiProperty

/-- The names that options can have, in the order of the options. -/
def names : List String :=
  ["default", "description", "minimum", "maximum", "exclusiveMinimum", "exclusiveMaximum",
    "minLength", "maxLength", "minItems", "maxItems", "example", "type", "format", "enum",
    "enumName", "isArray", "required", "nullable"]

theorem nodup_names : names.Nodup := by decide

/-! ### The default -/

theorem isConstant_iff {j : Json} : j.IsConstant ↔ ∃ text, defaultText? j = some text := by
  constructor
  · rintro (_ | _ | _ | _) <;> exact ⟨_, rfl⟩
  · rintro ⟨text, h⟩
    cases j with
    | string s => exact .string s
    | number n => exact .number n
    | bool b => exact .bool b
    | array items => exact .array items
    | null => simp [defaultText?] at h
    | object members => simp [defaultText?] at h

theorem exists_mem_ofDefault_iff {f : Field} :
    (∃ p, p ∈ ofDefault f) ↔
      f.hasDefaultValue = true ∧ ∃ j ∈ f.defaultValue, j.IsConstant := by
  simp only [isConstant_iff, ofDefault]
  cases f.hasDefaultValue with
  | false => simp
  | true =>
      cases f.defaultValue with
      | none => simp
      | some j => cases hj : defaultText? j <;> simp [hj]

/-! ### The order of each source -/

theorem names_ofDefault_sublist (f : Field) :
    ((ofDefault f).map (·.name)).Sublist ["default"] := by
  unfold ofDefault
  split
  · cases f.defaultValue.bind defaultText? <;> simp
  · simp

/-- The options of tags come in the order of the tags. -/
theorem names_ofDocumentation_sublist (documentation : String) :
    ((ofDocumentation documentation).map (·.name)).Sublist DocTag.names := by
  unfold ofDocumentation
  induction DocTag.names with
  | nil => simp
  | cons tag tags ih =>
      cases hvalue : DocTag.value? documentation tag with
      | none =>
          rw [List.filterMap_cons_none (by rw [hvalue]; rfl)]
          exact ih.cons tag
      | some value =>
          rw [List.filterMap_cons_some (by rw [hvalue]; rfl), List.map_cons]
          exact ih.cons_cons tag

theorem names_ofType_sublist (d : Descriptor) (className : String) :
    ((ofType d className).map (·.name)).Sublist typeNames := by
  unfold ofType
  cases d.kind with
  | object =>
      show ["type"].Sublist typeNames
      decide
  | enumeration =>
      show ["enum", "enumName"].Sublist typeNames
      decide
  | unsupported => exact List.nil_sublist _
  | scalar =>
      dsimp only
      cases scalarFormat? d.type with
      | none => exact List.nil_sublist _
      | some found =>
          obtain ⟨type, format?⟩ := found
          cases format? with
          | none =>
              show ["type"].Sublist typeNames
              decide
          | some format =>
              show ["type", "format"].Sublist typeNames
              decide

theorem names_flags_sublist (d : Descriptor) (isNullable : Bool) :
    ((flags d isNullable).map (·.name)).Sublist flagNames := by
  unfold flags
  cases d.isList <;> cases d.isRequired <;> cases isNullable <;> decide

/-! ### The options of a field -/

section

variable (f : Field) (d : Descriptor) (isNullable : Bool) (className : String)

theorem names_ofField_sublist :
    ((ofField f d isNullable className).map (·.name)).Sublist names := by
  rw [ofField_eq, List.map_append, List.map_append, List.map_append]
  exact (names_ofDefault_sublist f).append <| (names_ofDocumentation_sublist _).append <|
    (names_ofType_sublist d className).append (names_flags_sublist d isNullable)

/-- Without the options of tags, the other three sources are left. -/
theorem ofField_filter_untagged :
    (ofField f d isNullable className).filter (·.name ∉ DocTag.names)
      = ofDefault f ++ (ofType d className ++ flags d isNullable) := by
  have huntagged : ∀ {ps : List ApiProperty} (own : List String),
      (∀ n ∈ own, n ∉ DocTag.names) → (∀ p ∈ ps, p.name ∈ own) →
        ps.filter (·.name ∉ DocTag.names) = ps := by
    intro ps own hown hps
    exact List.filter_eq_self.mpr fun p hp => by simpa using hown _ (hps p hp)
  have htagged : (ofDocumentation (d.documentation.getD "")).filter (·.name ∉ DocTag.names)
      = [] := by
    exact List.filter_eq_nil_iff.mpr fun p hp => by simpa using name_of_mem_ofDocumentation hp
  have hdefault : (ofDefault f).filter (·.name ∉ DocTag.names) = ofDefault f :=
    huntagged ["default"] (by decide) fun p hp => by simp [name_of_mem_ofDefault hp]
  have htype : (ofType d className).filter (·.name ∉ DocTag.names) = ofType d className :=
    huntagged typeNames (by decide) fun _ => name_of_mem_ofType
  have hflags : (flags d isNullable).filter (·.name ∉ DocTag.names) = flags d isNullable :=
    huntagged flagNames (by decide) fun _ => name_of_mem_flags
  rw [ofField_eq, List.filter_append, List.filter_append, List.filter_append, htagged, hdefault,
    htype, hflags, List.nil_append]

theorem exists_default_mem_ofField_iff :
    (∃ p ∈ ofField f d isNullable className, p.name = "default") ↔ ∃ p, p ∈ ofDefault f := by
  have hnames : "default" ∉ DocTag.names ∧ "default" ∉ typeNames ∧ "default" ∉ flagNames := by
    decide
  obtain ⟨htag, htype, hflag⟩ := hnames
  constructor
  · rintro ⟨p, hp, hname⟩
    rw [ofField_eq] at hp
    simp only [List.mem_append] at hp
    rcases hp with hp | hp | hp | hp
    · exact ⟨p, hp⟩
    · exact absurd (hname ▸ name_of_mem_ofDocumentation hp) htag
    · exact absurd (hname ▸ name_of_mem_ofType hp) htype
    · exact absurd (hname ▸ name_of_mem_flags hp) hflag
  · rintro ⟨p, hp⟩
    refine ⟨p, ?_, name_of_mem_ofDefault hp⟩
    rw [ofField_eq]
    exact List.mem_append_left _ hp

/-- **The options of a field have distinct names, in one order for all fields.**

There is a default among them exactly if the field has one that is a constant.  The documentation
decides over the options of tags alone: those under all other names are the same, with the same
values, for any two texts. -/
theorem names_ofField :
    ((ofField f d isNullable className).map (·.name)).Nodup ∧
      ((ofField f d isNullable className).map (·.name)).Sublist names ∧
      ((∃ p ∈ ofField f d isNullable className, p.name = "default") ↔
        f.hasDefaultValue = true ∧ ∃ j ∈ f.defaultValue, j.IsConstant) ∧
      ∀ text text' : Option String,
        (ofField { f with documentation := text } { d with documentation := text' } isNullable
            className).filter (·.name ∉ DocTag.names)
          = (ofField f d isNullable className).filter (·.name ∉ DocTag.names) := by
  have hsublist := names_ofField_sublist f d isNullable className
  refine ⟨hsublist.nodup nodup_names, hsublist, ?_, fun text text' => ?_⟩
  · rw [exists_default_mem_ofField_iff, exists_mem_ofDefault_iff]
  · rw [ofField_filter_untagged, ofField_filter_untagged]
    rfl

end

/-- Tags of the documentation take no part in what the schema says, here of the type. -/
example :
    (ofField { name := "age", kind := .scalar, type := "Int" }
        { name := "age", kind := .scalar, type := "Int", isRequired := true, isList := false
          relationName := none
          documentation := some "@type string\n@default 1\n@minimum 5" } false "Age").map (·.name)
      = ["minimum", "type", "format"] := by decide +kernel

end ApiProperty

end DtoForge
