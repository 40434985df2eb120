/-
Members tell one story.

Whether a member is a list, may be null and has to be there is told three times: by its type
to the compiler, by its validators at run time, and by its options in the documented API.
All three are made from one plan, and what a documentation can ask for goes by other names.
So they agree for every member whatsoever.

A fourth teller is the question mark, which a plan sets apart from what is required.  Every
plan of an input sets it to the opposite; records use it for relations only and leave it out
of the story.
-/
import DtoForge.Proofs.ApiDoc.FieldOptions
import DtoForge.Proofs.Dto.Output
import DtoForge.Proofs.Validation.Synthesis

namespace DtoForge

namespace Member

/-- A validated and documented member whose type, validators and options tell the same. -/
structure Consistent (x : Member) : Prop where
  documented : x.api.isSome = true
  /-- A type with an array layer is validated as a list. -/
  validatedList : x.type.hasArray = true ↔ "IsArray" ∈ x.validators.map (·.name)
  /-- And it is documented as one. -/
  documentedList : x.type.hasArray = true ↔ ⟨"isArray", "true"⟩ ∈ x.options
  /-- A type that ends in a null layer is documented as nullable. -/
  nullable : x.type.isNullable = true ↔ ⟨"nullable", "true"⟩ ∈ x.options
  /-- The first validator marks presence, as it is documented. -/
  presence : x.validators.head?
    = some (.bare (if ⟨"required", "false"⟩ ∈ x.options then "IsOptional" else "IsNotEmpty"))
  /-- No other validator marks presence. -/
  once : x.validators.countP (fun a => a.name ∈ Validators.presenceNames) = 1

/-- A member that is written with a question mark exactly if its first validator lets it be
absent. -/
def MarksAbsence (x : Member) : Prop :=
  x.isOptional = true ↔ x.validators.head?.map (·.name) = some "IsOptional"

end Member

/-! ### Members of plans -/

namespace ApiProperty

variable {d : Descriptor} {isNullable : Bool}

theorem isArray_mem_flags : ⟨"isArray", "true"⟩ ∈ flags d isNullable ↔ d.isList = true := by
  simp [flags, flag]

theorem required_mem_flags : ⟨"required", "false"⟩ ∈ flags d isNullable ↔ d.isRequired = false := by
  simp [flags, flag]

theorem nullable_mem_flags : ⟨"nullable", "true"⟩ ∈ flags d isNullable ↔ isNullable = true := by
  simp [flags, flag]

end ApiProperty

namespace Settings

variable {s : Settings} (p : Plan)

/-- **Every planned member tells one story.** -/
theorem consistent_member (hvalidates : s.validates = true) (hdocuments : s.documents = true) :
    (s.member p).Consistent := by
  have hflags : ∀ {q : ApiProperty}, q.name ∈ ApiProperty.flagNames →
      (q ∈ (s.member p).options ↔ q ∈ ApiProperty.flags p.descriptor p.isNullable) := by
    intro q hq
    rw [options_member p hdocuments]
    exact ApiProperty.mem_ofField_iff_mem_flags _ _ _ _ hq
  refine ⟨isSome_api_member p hdocuments, ?_, ?_, ?_, ?_, ?_⟩
  · rw [hasArray_member, validators_member p hvalidates, Validators.isArray_mem_names_synthesize]
  · rw [hasArray_member, hflags (by decide), ApiProperty.isArray_mem_flags]
  · rw [isNullable_member, hflags (by decide), ApiProperty.nullable_mem_flags]
  · rw [validators_member p hvalidates, Validators.head?_synthesize, Validators.presence]
    simp only [hflags (q := ⟨"required", "false"⟩) (by decide), ApiProperty.required_mem_flags]
    cases p.descriptor.isRequired <;> rfl
  · rw [validators_member p hvalidates, List.countP_eq_length_filter,
      Validators.synthesize_filter_presence]
    rfl

/-- A plan that asks for a question mark exactly where nothing is required makes a member that
has one exactly where it may be absent. -/
theorem marksAbsence_member (hvalidates : s.validates = true)
    (h : p.isOptional = !p.descriptor.isRequired) : (s.member p).MarksAbsence := by
  rw [Member.MarksAbsence, validators_member p hvalidates, Validators.head?_synthesize,
    Validators.presence]
  show p.isOptional = true ↔ _
  rw [h]
  cases p.descriptor.isRequired <;> decide

end Settings

/-! ### Members of inputs -/

section

variable {s : Settings} {m : Model} {f : Field} {x : Member}

theorem Input.marksAbsence {side : Side} (hvalidates : s.validates = true)
    (hx : Input.member? s side m f = some x) : x.MarksAbsence := by
  obtain ⟨-, rfl⟩ := Input.member?_eq_some_iff.mp hx
  have hplan := Input.plans_plan s side m f
  exact Settings.marksAbsence_member _ hvalidates (by rw [hplan.isOptional, hplan.isRequired])

theorem Field.marksAbsence {kind : DtoKind} (hvalidates : s.validates = true)
    (hkind : kind.isInput = true) (hx : f.member? s m kind = some x) : x.MarksAbsence := by
  cases kind with
  | connect =>
      simp only [Field.member?, Connect.member?] at hx
      split at hx
      · rw [← Option.some.inj hx]
        exact Settings.marksAbsence_member _ hvalidates rfl
      · exact absurd hx (by simp)
  | create => exact Input.marksAbsence hvalidates hx
  | update => exact Input.marksAbsence hvalidates hx
  | plain => simp [DtoKind.isInput] at hkind
  | entity => simp [DtoKind.isInput] at hkind

theorem RelationInput.marksAbsence {side : Side} (hvalidates : s.validates = true)
    (hx : x ∈ (RelationInput.helper s side m f).members) : x.MarksAbsence := by
  obtain ⟨action, -, rfl⟩ := List.mem_map.mp hx
  exact Settings.marksAbsence_member _ hvalidates rfl

theorem Input.isOptional_of_update (hx : Input.member? s .onUpdate m f = some x) :
    x.isOptional = true := by
  obtain ⟨-, rfl⟩ := Input.member?_eq_some_iff.mp hx
  exact (Input.plans_plan s .onUpdate m f).isOptional

end

/-! ### Files -/

namespace Dto

/-- A file in which type, validators, options and question marks agree. -/
structure Consistent (d : Dto) : Prop where
  members : ∀ x ∈ d.allMembers, x.Consistent
  /-- In relation inputs the question mark says what the validators say. -/
  helpers : ∀ c ∈ d.helpers, ∀ x ∈ c.members, x.MarksAbsence
  /-- And so it does in inputs. -/
  inputs : d.kind.isInput = true → ∀ x ∈ d.members, x.MarksAbsence
  updates : d.kind = .update → ∀ x ∈ d.members, x.isOptional = true

/-- **Every file with validators and documentation tells one story.** -/
theorem consistent_of_mem_all {s : Settings} {dm : Datamodel} {models : List Model}
    {dtos : List Dto} {d : Dto} (hout : s.outputType = .classes)
    (hvalidation : s.classValidation = true) (hdependencies : s.noDependencies = false)
    (hall : all s dm models = .ok dtos) (hd : d ∈ dtos) : d.Consistent := by
  have hvalidates := s.validates_eq_true hout hvalidation
  have hdocuments := s.documents_eq_true hout hdependencies
  obtain ⟨_, -, h⟩ := exists_of_forall₂_right (matches_all hall) d hd
  obtain ⟨m, -, hholds⟩ := exists_holds_of_mem_all hall hd
  refine ⟨?_, ?_, ?_, ?_⟩
  · intro x hx
    obtain ⟨p, rfl⟩ := h.exists_plan x hx
    exact s.consistent_member p hvalidates hdocuments
  · intro c hc x hx
    rw [hholds.helpers] at hc
    obtain ⟨f, -, hcf⟩ := List.mem_filterMap.mp hc
    obtain ⟨side, -, hside⟩ := Field.helper?_eq_some_iff.mp hcf
    obtain ⟨-, rfl⟩ := Input.helper?_eq_some_iff.mp hside
    exact RelationInput.marksAbsence hvalidates hx
  · intro hkind x hx
    rw [hholds.members] at hx
    obtain ⟨f, -, hxf⟩ := List.mem_filterMap.mp hx
    exact Field.marksAbsence hvalidates hkind hxf
  · intro hkind x hx
    rw [hholds.members, hkind] at hx
    obtain ⟨f, -, hxf⟩ := List.mem_filterMap.mp hx
    exact Input.isOptional_of_update hxf

/-- The blog with validators: in its files there are relation inputs and lists. -/
theorem consistent_blog :
    ∃ dtos, all { classValidation := true } .blog Datamodel.blog.models = .ok dtos ∧
      (∃ d ∈ dtos, ∃ c ∈ d.helpers, ∃ x ∈ c.members, x.type.hasArray = true) ∧
        ∀ d ∈ dtos, d.Consistent := by
  have hok : (all { classValidation := true } .blog Datamodel.blog.models).toOption.any
      (fun dtos => dtos.any fun d => d.helpers.any fun c => c.members.any (·.type.hasArray))
        = true := by
    decide +kernel
  obtain ⟨dtos, hall, hlists⟩ := exists_ok_of_any hok
  simp only [List.any_eq_true] at hlists
  exact ⟨dtos, hall, hlists, fun d hd => consistent_of_mem_all rfl rfl rfl hall hd⟩

end Dto

end DtoForge
