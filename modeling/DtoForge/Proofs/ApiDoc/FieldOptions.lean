/-
Where the documentation options of a field come from.

Options have four sources, and each writes under names of its own: the default of the
schema, the tags of the documentation, the type, and what is true of the field beyond its
type.  So what is asked for by name can be asked of one source, and no documentation text,
whatever it says, adds or changes an option of the last two.
-/
import DtoForge.ApiDoc.FieldOptions

namespace DtoForge.ApiProperty

/-! ### Names of the sources -/

/-- The names of the options that the type gives. -/
def typeNames : List String :=
  ["type", "format", "enum", "enumName"]

/-- The names of the options that say what is true of a field beyond its type. -/
def flagNames : List String :=
  ["isArray", "required", "nullable"]

theorem name_of_mem_ofDefault {f : Field} {p : ApiProperty} (h : p ∈ ofDefault f) :
    p.name = "default" := by
  unfold ofDefault at h
  split at h
  · obtain ⟨text, -, rfl⟩ := Option.map_eq_some_iff.mp (Option.mem_toList.mp h)
    rfl
  · simp at h

theorem name_of_mem_ofDocumentation {documentation : String} {p : ApiProperty}
    (h : p ∈ ofDocumentation documentation) : p.name ∈ DocTag.names := by
  obtain ⟨tag, htag, h⟩ := List.mem_filterMap.mp h
  obtain ⟨value, -, rfl⟩ := Option.map_eq_some_iff.mp h
  exact htag

/-- The documentation gives an option under a tag exactly if the tag has a value there. -/
theorem mem_ofDocumentation_iff {documentation tag value : String} (htag : tag ∈ DocTag.names) :
    (⟨tag, value⟩ : ApiProperty) ∈ ofDocumentation documentation ↔
      ∃ text, DocTag.value? documentation tag = some text ∧ value = Literal.ofText text := by
  unfold ofDocumentation
  rw [List.mem_filterMap]
  constructor
  · rintro ⟨found, -, h⟩
    obtain ⟨text, htext, hsame⟩ := Option.map_eq_some_iff.mp h
    obtain ⟨rfl, rfl⟩ := ApiProperty.mk.inj hsame
    exact ⟨text, htext, rfl⟩
  · rintro ⟨text, htext, rfl⟩
    exact ⟨tag, htag, by rw [htext]; rfl⟩

theorem name_of_mem_ofType {d : Descriptor} {className : String} {p : ApiProperty}
    (h : p ∈ ofType d className) : p.name ∈ typeNames := by
  unfold ofType at h
  cases hkind : d.kind with
  | scalar =>
      simp only [hkind] at h
      cases hscalar : scalarFormat? d.type with
      | none => simp [hscalar] at h
      | some found =>
          obtain ⟨type, format?⟩ := found
          simp only [hscalar, List.mem_cons, Option.mem_toList, Option.map_eq_some_iff] at h
          rcases h with rfl | ⟨format, -, rfl⟩
          · simp [literal, typeNames]
          · simp [literal, typeNames]
  | object =>
      simp only [hkind, List.mem_singleton] at h
      simp [h, typeNames]
  | enumeration =>
      simp only [hkind, List.mem_cons, List.not_mem_nil, or_false] at h
      rcases h with rfl | rfl
      · simp [typeNames]
      · simp [literal, typeNames]
  | unsupported => simp [hkind] at h

/-- What is true of a field beyond its type. -/
def flags (d : Descriptor) (isNullable : Bool) : List ApiProperty :=
  flag d.isList "isArray" "true"
    ++ (flag (!d.isRequired) "required" "false" ++ flag isNullable "nullable" "true")

theorem name_of_mem_flags {d : Descriptor} {isNullable : Bool} {p : ApiProperty}
    (h : p ∈ flags d isNullable) : p.name ∈ flagNames := by
  have hflag : ∀ {holds : Bool} {name value : String},
      p ∈ flag holds name value → p.name = name := by
    intro holds name value hp
    cases holds with
    | true => rw [List.mem_singleton.mp hp]
    | false => simp [flag] at hp
  simp only [flags, List.mem_append] at h
  rcases h with h | h | h <;> simp [hflag h, flagNames]

/-! ### Options by name -/

section

variable (f : Field) (d : Descriptor) (isNullable : Bool) (className : String)

theorem ofField_eq :
    ofField f d isNullable className
      = ofDefault f ++ (ofDocumentation (d.documentation.getD "")
        ++ (ofType d className ++ flags d isNullable)) := by
  simp [ofField, flags]

theorem mem_ofField_iff_mem_flags {p : ApiProperty} (h : p.name ∈ flagNames) :
    p ∈ ofField f d isNullable className ↔ p ∈ flags d isNullable := by
  have hnames : ∀ n ∈ flagNames, n ≠ "default" ∧ n ∉ DocTag.names ∧ n ∉ typeNames := by decide
  obtain ⟨hdefault, htag, htype⟩ := hnames _ h
  have hdefault : p ∉ ofDefault f := fun hp => hdefault (name_of_mem_ofDefault hp)
  have htag : p ∉ ofDocumentation (d.documentation.getD "") :=
    fun hp => htag (name_of_mem_ofDocumentation hp)
  have htype : p ∉ ofType d className := fun hp => htype (name_of_mem_ofType hp)
  simp [ofField_eq, hdefault, htag, htype]

/-- Options under the name of a tag are there exactly if the documentation gives them. -/
theorem mem_ofField_iff_mem_ofDocumentation {p : ApiProperty} (h : p.name ∈ DocTag.names) :
    p ∈ ofField f d isNullable className ↔ p ∈ ofDocumentation (d.documentation.getD "") := by
  have hnames : ∀ n ∈ DocTag.names, n ≠ "default" ∧ n ∉ typeNames ∧ n ∉ flagNames := by decide
  obtain ⟨hdefault, htype, hflag⟩ := hnames _ h
  have hdefault : p ∉ ofDefault f := fun hp => hdefault (name_of_mem_ofDefault hp)
  have htype : p ∉ ofType d className := fun hp => htype (name_of_mem_ofType hp)
  have hflag : p ∉ flags d isNullable := fun hp => hflag (name_of_mem_flags hp)
  simp [ofField_eq, hdefault, htype, hflag]

/-- An object has one type, and it is the class of the object. -/
theorem ofField_filter_type (hkind : d.kind = .object) :
    (ofField f d isNullable className).filter (·.name == "type")
      = [⟨"type", "() => " ++ className⟩] := by
  have hnone : ∀ {ps : List ApiProperty} (names : List String), "type" ∉ names →
      (∀ p ∈ ps, p.name ∈ names) → ps.filter (·.name == "type") = [] := by
    intro ps names htype hps
    refine List.filter_eq_nil_iff.mpr fun p hp hname => ?_
    exact htype (beq_iff_eq.mp hname ▸ hps p hp)
  have hdefault : (ofDefault f).filter (·.name == "type") = [] :=
    hnone ["default"] (by decide) fun p hp => by simp [name_of_mem_ofDefault hp]
  have htags : (ofDocumentation (d.documentation.getD "")).filter (·.name == "type") = [] :=
    hnone DocTag.names (by decide) fun _ => name_of_mem_ofDocumentation
  have hflags : (flags d isNullable).filter (·.name == "type") = [] :=
    hnone flagNames (by decide) fun _ => name_of_mem_flags
  have htype : (ofType d className).filter (·.name == "type")
      = [⟨"type", "() => " ++ className⟩] := by
    simp [ofType, hkind]
  rw [ofField_eq, List.filter_append, List.filter_append, List.filter_append, hdefault, htags,
    hflags, htype]
  rfl

end

end DtoForge.ApiProperty
