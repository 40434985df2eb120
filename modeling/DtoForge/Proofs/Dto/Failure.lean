/-
Over what a run fails.

An output looks up the type of a field where it refers to another output, and a run can fail
over nothing else.  There is a second fault, that of a relation input which can do nothing, but
a relation is open to an input only with a marker that says what the input may do.

What an output refers to follows from its model.  So a run fails exactly if a field of one of
its outputs refers to something and is of a type that is neither a model nor a composite type,
whatever the settings are, as long as they fit together.  Only objects refer to something, and
in an entity all of them do that it shows.
-/
import DtoForge.Proofs.Dto.Output

namespace DtoForge

/-! ### Names that are not declared -/

/-- No model and no composite type has the name. -/
def Datamodel.Lacks (dm : Datamodel) (name : String) : Prop :=
  ∀ r ∈ dm.models ++ dm.types, r.name ≠ name

instance (dm : Datamodel) (name : String) : Decidable (dm.Lacks name) :=
  inferInstanceAs (Decidable (∀ r ∈ _, _))

theorem Datamodel.declares_eq_false_iff {dm : Datamodel} {name : String} :
    dm.declares name = false ↔ dm.Lacks name := by
  simp only [declares, Lacks, Bool.or_eq_false_iff, List.any_eq_false, beq_iff_eq,
    List.forall_mem_append, ne_eq]

/-! ### Fields that are unresolved -/

/-- A field whose type an output of its model looks up and does not find. -/
def Field.IsUnresolved (dm : Datamodel) (m : Model) (kind : DtoKind) (f : Field) : Prop :=
  f.targets m kind ≠ [] ∧ dm.Lacks f.type

section

variable {s : Settings} {dm : Datamodel} {m : Model} {f : Field}

/-- **A part fails exactly if its field is unresolved, and with the fault of this field.** -/
theorem Field.part_eq_error_iff {kind : DtoKind} {e : Fault} :
    f.part s dm m kind = .error e ↔ f.IsUnresolved dm m kind ∧ e = f.fault m := by
  rw [part, Datamodel.checked_eq_error_iff, Datamodel.declares_eq_false_iff]
  rfl

theorem Field.kind_of_targets_ne_nil {kind : DtoKind} (h : f.targets m kind ≠ []) :
    f.kind = .object := by
  by_contra hkind
  have hrelation : f.isRelation = false := by simp [isRelation, hkind]
  have hcomposite : f.isComposite = false := by simp [isComposite, hkind]
  cases kind <;>
    simp [targets, Input.targets, Record.valueTargets, hrelation, hcomposite] at h

theorem Field.targets_entity_ne_nil (hkind : f.kind = .object)
    (hvisible : f.has .entityHidden = false) : f.targets m .entity ≠ [] := by
  unfold targets
  rw [hvisible, if_neg Bool.false_ne_true]
  by_cases hrelation : f.isRelation = true
  · rw [if_pos hrelation]
    simp
  · rw [if_neg hrelation, Record.valueTargets, if_pos (isComposite_of_kind hkind hrelation)]
    simp

end

/-! ### Runs that fail -/

/-- A fault that an output of the model can end with: that of a field of this sort. -/
def Model.FailsWith (dm : Datamodel) (m : Model) (kind : DtoKind) (e : Fault) : Prop :=
  ∃ f ∈ m.fields, f.IsUnresolved dm m kind ∧ e = f.fault m

namespace Dto

variable {s : Settings} {dm : Datamodel} {m : Model} {kind : DtoKind} {e : Fault}

theorem failsWith_of_assemble (h : assemble s dm m kind = .error e) : m.FailsWith dm kind e := by
  obtain ⟨f, hf, herror⟩ := exists_error_of_mapM (map_eq_error_iff.mp h)
  exact ⟨f, hf, Field.part_eq_error_iff.mp herror⟩

theorem exists_failsWith_of_all {models : List Model} (h : all s dm models = .error e) :
    ∃ o ∈ dm.outputs models, o.1.FailsWith dm o.2 e := by
  rw [all_eq] at h
  obtain ⟨o, ho, herror⟩ := exists_error_of_mapM h
  exact ⟨o, ho, failsWith_of_assemble herror⟩

theorem IsAssembled.not_isUnresolved {d : Dto} (h : IsAssembled s dm m kind d) :
    ∀ f ∈ m.fields, ¬ f.IsUnresolved dm m kind := by
  intro f hf hunresolved
  have hdeclared := (isAssembled_iff.mp h).1 f hf hunresolved.1
  have hmissing := Datamodel.declares_eq_false_iff.mpr hunresolved.2
  exact absurd (hdeclared.symm.trans hmissing) (by simp)

/-- **A run fails exactly if a field of one of its outputs is unresolved.** -/
theorem all_fails_iff {models : List Model} :
    (∃ e, all s dm models = .error e) ↔
      ∃ o ∈ dm.outputs models, ∃ f ∈ o.1.fields, f.IsUnresolved dm o.1 o.2 := by
  constructor
  · rintro ⟨e, he⟩
    obtain ⟨o, ho, f, hf, hunresolved, -⟩ := exists_failsWith_of_all he
    exact ⟨o, ho, f, hf, hunresolved⟩
  · rintro ⟨o, ho, f, hf, hunresolved⟩
    cases hall : all s dm models with
    | error e => exact ⟨e, rfl⟩
    | ok dtos =>
        obtain ⟨d, -, h⟩ := exists_of_forall₂_left (assembles_all hall) o ho
        exact absurd hunresolved (h.not_isUnresolved f hf)

end Dto

section

variable {s : Settings} {dm : Datamodel}

/-- With settings that fit together, only the outputs can fail. -/
theorem generate_eq_error_iff (hcheck : s.checkOptions = .ok ()) {e : Fault} :
    generate s dm = .error e ↔ Dto.all s dm (selectedModels s dm) = .error e := by
  rw [generate, hcheck]
  exact bind_eq_error_iff_left fun _ => ⟨_, rfl⟩

/-- **Nothing but a type that is not declared makes a run fail**, and then the fault names it, a
field that asks for it, and the model or composite type of that field.  Where all objects are of
declared types a run succeeds, and over an object that its entity shows it fails. -/
theorem generate_fails (hcheck : s.checkOptions = .ok ()) :
    (∀ e, generate s dm = .error e →
      ∃ m ∈ dm.types ++ selectedModels s dm, m.isIgnored = false ∧
        ∃ f ∈ m.fields, f.kind = .object ∧ dm.Lacks f.type ∧
          e = .unresolved m.name f.name f.type) ∧
    (∀ model field, generate s dm ≠ .error (.emptyRelationInput model field)) ∧
    ((∀ m ∈ dm.types ++ dm.models, ∀ f ∈ m.fields, f.kind = .object → ¬ dm.Lacks f.type) →
      ∃ files, generate s dm = .ok files) ∧
    (∀ m ∈ selectedModels s dm, m.isIgnored = false →
      ∀ f ∈ m.fields, f.kind = .object → f.has .entityHidden = false → dm.Lacks f.type →
        ∃ e, generate s dm = .error e) := by
  have hfault : ∀ e, generate s dm = .error e →
      ∃ m ∈ dm.types ++ selectedModels s dm, m.isIgnored = false ∧
        ∃ f ∈ m.fields, f.kind = .object ∧ dm.Lacks f.type ∧ e = f.fault m := by
    intro e he
    obtain ⟨⟨m, kind⟩, ho, f, hf, ⟨htargets, hlacks⟩, he⟩ :=
      Dto.exists_failsWith_of_all ((generate_eq_error_iff hcheck).mp he)
    have hm := List.mem_append.mpr (Datamodel.mem_of_mem_outputs ho)
    exact ⟨m, hm, (Datamodel.mem_outputs_iff.mp ho).1, f, hf,
      Field.kind_of_targets_ne_nil htargets, hlacks, he⟩
  refine ⟨hfault, ?_, ?_, ?_⟩
  · intro model field he
    obtain ⟨m, -, -, f, -, -, -, heq⟩ := hfault _ he
    exact absurd heq (by simp [Field.fault])
  · intro hdeclared
    cases hfiles : generate s dm with
    | ok files => exact ⟨files, rfl⟩
    | error e =>
        obtain ⟨m, hm, -, f, hf, hkind, hlacks, -⟩ := hfault e hfiles
        refine absurd hlacks (hdeclared m ?_ f hf hkind)
        refine List.mem_append.mpr ((List.mem_append.mp hm).imp_right fun hm => ?_)
        exact List.mem_of_mem_filter hm
  · intro m hm hkept f hf hkind hvisible hlacks
    have ho : (m, DtoKind.entity) ∈ dm.outputs (selectedModels s dm) :=
      Datamodel.mem_outputs_iff.mpr
        ⟨hkept, Or.inr ⟨hm, Model.mem_kinds_of_ne_connect (by decide)⟩⟩
    obtain ⟨e, he⟩ := Dto.all_fails_iff.mpr
      ⟨_, ho, f, hf, Field.targets_entity_ne_nil hkind hvisible, hlacks⟩
    exact ⟨e, (generate_eq_error_iff hcheck).mpr he⟩

end

/-- A letter whose sender is not declared. -/
def letter : Model where
  name := "Letter"
  fields := [
    { name := "id", kind := .scalar, type := "Int", isRequired := true, isId := true },
    { name := "sender", kind := .object, type := "Person", isRequired := true
      relationName := some "LetterToPerson" }]

/-- All objects of the blog are of declared types, so it does not fail.  The letter fails over
its sender. -/
theorem generate_fails_letter :
    Settings.checkOptions {} = .ok () ∧ (∃ files, generate {} .blog = .ok files) ∧
      generate {} { models := [letter] } = .error (.unresolved "Letter" "sender" "Person") := by
  have hcheck : Settings.checkOptions {} = .ok () := rfl
  obtain ⟨-, -, hsucceeds, -⟩ := @generate_fails {} .blog hcheck
  obtain ⟨hfault, -, -, hfails⟩ := @generate_fails {} { models := [letter] } hcheck
  have hselected : selectedModels {} { models := [letter] } = [letter] :=
    selectedModels_all rfl rfl _
  refine ⟨hcheck, hsucceeds (by decide +kernel), ?_⟩
  rw [hselected] at hfault hfails
  obtain ⟨e, he⟩ := hfails letter (by simp) (by decide +kernel) _
    (List.mem_cons_of_mem _ (List.mem_singleton_self _)) rfl (by decide +kernel) (by decide +kernel)
  obtain ⟨m, hm, -, f, hf, hkind, -, rfl⟩ := hfault e he
  obtain rfl : m = letter := by simpa using hm
  -- Its other field is no object.
  simp only [letter, List.mem_cons, List.not_mem_nil, or_false] at hf
  rcases hf with rfl | rfl
  · exact absurd hkind (by decide)
  · exact he

end DtoForge
