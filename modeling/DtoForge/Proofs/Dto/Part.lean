/-
What the parts of a file can be.

There are four shapes of a part and no others: nothing, a member without a class, a member
whose class is another output, and a relation input with its class.  In each of them the
classes that members and helpers speak of and the outputs that the part refers to are the
same, which is all that has to be known about parts to see that a file is closed.
-/
import DtoForge.Proofs.Dto.Member
import DtoForge.Proofs.Dto.Source

namespace DtoForge

/-! ### The shapes of parts -/

/-- What a part can be. -/
inductive Part.Shape (s : Settings) : Part → Prop
  /-- The field is left out. -/
  | empty : Shape s {}
  /-- A member that needs nothing else. -/
  | value (plan : Plan) (hclass : (s.member plan).type.className? = none) :
      Shape s { member? := some (s.member plan) }
  /-- A member of another output's class. -/
  | object (plan : Plan) (t : Target)
      (hclass : (s.member plan).type.className? = some (t.className s)) :
      Shape s { member? := some (s.member plan), references := [t] }
  /-- The class of a relation input, with one member for each action, and the member of
  that class if the field is kept.  There is an action, and it is done by an input. -/
  | relation (plan? : Option Plan) (name : String) (isExported : Bool)
      (actions : List (Plan × Target))
      (hclass : ∀ plan ∈ plan?, (s.member plan).type.className? = some name)
      (hactions : ∀ a ∈ actions, (s.member a.1).type.className? = some (a.2.className s))
      (hinput : ∃ a ∈ actions, a.2.kind.isInput = true) :
      Shape s
        { member? := plan?.map s.member
          helper? := some
            { name, isExported, members := actions.map fun a => s.member a.1
              extraModels := [] }
          references := actions.map Prod.snd
          extraModels := (actions.map Prod.snd).map (Target.className s) ++ [name] }

/-! ### Kinds of fields -/

section

variable {f : Field}

theorem kind_of_isRelation (hf : f.isRelation = true) : f.kind = .object := by
  simp only [Field.isRelation, Bool.and_eq_true, beq_iff_eq] at hf
  exact hf.1

theorem kind_of_isComposite (hf : f.isComposite = true) : f.kind = .object := by
  simp only [Field.isComposite, Bool.and_eq_true, beq_iff_eq] at hf
  exact hf.1

theorem kind_ne_object (hrelation : ¬ f.isRelation = true) (hcomposite : ¬ f.isComposite = true) :
    f.kind ≠ .object := by
  intro hkind
  simp only [Field.isRelation, Field.isComposite, hkind, beq_self_eq_true, Bool.true_and]
    at hrelation hcomposite
  cases hname : f.relationName with
  | none => simp [hname] at hcomposite
  | some name => simp [hname] at hrelation

theorem isComposite_of_kind (hkind : f.kind = .object) (hrelation : ¬ f.isRelation = true) :
    f.isComposite = true := by
  by_contra hvalue
  exact kind_ne_object hrelation hvalue hkind

end

/-! ### The shape of what a field gives -/

section

variable {s : Settings} {side : Side} {m : Model} {f : Field}

/-- A relation input has its shape with or without the member. -/
theorem RelationInput.shape (hactions : actions side f ≠ []) (plan? : Option Plan)
    (hplan : ∀ plan ∈ plan?, (s.member plan).type.className? = some (className s side m f)) :
    Part.Shape s (.of s (plan?.map s.member) (some (helper s side m f))
      ((actions side f).map fun action => ⟨action.2, f.type⟩)) := by
  let planOf := fun action : String × DtoKind =>
    plan f ((actions side f).length == 1) action.1 (s.className action.2 f.type)
  let plans := (actions side f).map fun action => (planOf action, Target.mk action.2 f.type)
  have hplans : ∀ a ∈ plans, (s.member a.1).type.className? = some (a.2.className s) := by
    intro a ha
    obtain ⟨action, -, rfl⟩ := List.mem_map.mp ha
    exact Settings.className?_member s (planOf action)
  have hinput : ∃ a ∈ plans, a.2.kind.isInput = true := by
    obtain ⟨action, haction⟩ := List.exists_mem_of_ne_nil _ hactions
    exact ⟨_, List.mem_map_of_mem haction, isInput_of_mem_actions haction⟩
  have hshape := Part.Shape.relation plan? (className s side m f) s.exportRelationInputs plans
    hplan hplans hinput
  simp only [plans, planOf, List.map_map, Function.comp_def] at hshape
  simp only [Part.of, helper, Option.elim, List.map_map, Function.comp_def]
  exact hshape

theorem Part.shape_value (p : Plan) (hkind : p.descriptor.kind ≠ .object) :
    Shape s (.of s (some (s.member p)) none []) :=
  .value p (by rw [Settings.className?_member, if_neg hkind])

theorem Part.shape_object (p : Plan) (t : Target) (hkind : p.descriptor.kind = .object)
    (hclass : p.className = t.className s) :
    Shape s (.of s (some (s.member p)) none [t]) :=
  .object p t (by rw [Settings.className?_member, if_pos hkind, hclass])

theorem Input.shape :
    Part.Shape s (.of s (member? s side m f) (helper? s side m f) (targets side m f)) := by
  unfold member? helper? targets
  cases hopen : side.isOpen m f with
  | false => exact .empty
  | true =>
      cases hrelation : f.isRelation with
      | true =>
          have hactions := Side.actions_ne_nil_of_isOpen hopen hrelation
          rw [member, plan, hrelation]
          cases side.isKept m f with
          | false => exact RelationInput.shape hactions none (by simp)
          | true =>
              refine RelationInput.shape hactions (some _) fun plan hplan => ?_
              rw [← Option.mem_some.mp hplan, Settings.className?_member]
              exact if_pos (kind_of_isRelation hrelation)
      | false =>
          rw [member, plan, hrelation]
          cases side.isKept m f with
          | false => exact .empty
          | true =>
              cases hcomposite : f.isComposite with
              | true => exact Part.shape_object _ _ (kind_of_isComposite hcomposite) rfl
              | false =>
                  exact Part.shape_value _ (kind_ne_object (by simp [hrelation]) (by simp [hcomposite]))

theorem Record.shape_value (hrelation : ¬ f.isRelation = true) :
    Part.Shape s (.of s (some (s.member (plan s f))) none (valueTargets f)) := by
  unfold plan valueTargets
  by_cases hcomposite : f.isComposite = true
  · rw [if_pos hcomposite, if_pos hcomposite]
    exact Part.shape_object _ _ (kind_of_isComposite hcomposite) rfl
  · rw [if_neg hcomposite, if_neg hcomposite]
    exact Part.shape_value _ (kind_ne_object hrelation hcomposite)

theorem Record.shape_plain : Part.Shape s (f.given s m .plain) := by
  unfold Field.given Field.member? Field.targets plainMember?
  by_cases hout : (f.has .entityHidden || f.isRelation) = true
  · rw [if_pos hout, if_pos hout]
    exact .empty
  · rw [if_neg hout, if_neg hout]
    exact shape_value fun hrelation => hout (by simp [hrelation])

theorem Record.shape_entity : Part.Shape s (f.given s m .entity) := by
  unfold Field.given Field.member? Field.targets entityMember?
  by_cases hhidden : f.has .entityHidden = true
  · rw [if_pos hhidden, if_pos hhidden]
    exact .empty
  · rw [if_neg hhidden, if_neg hhidden]
    by_cases hrelation : f.isRelation = true
    · rw [if_pos hrelation, if_pos hrelation]
      exact Part.shape_object _ _ (kind_of_isRelation hrelation) rfl
    · rw [if_neg hrelation, if_neg hrelation]
      exact shape_value hrelation

theorem Connect.shape : Part.Shape s (f.given s m .connect) := by
  unfold Field.given Field.member? Connect.member?
  by_cases hidentifying : f.isIdentifying = true
  · rw [if_pos hidentifying]
    rw [Field.isIdentifying, Bool.and_eq_true, bne_iff_ne] at hidentifying
    exact Part.shape_value _ hidentifying.1
  · rw [if_neg hidentifying]
    exact .empty

/-- **What a field gives to an output has one of the shapes.** -/
theorem Field.shape (kind : DtoKind) : Part.Shape s (f.given s m kind) := by
  cases kind with
  | connect => exact Connect.shape
  | create => exact Input.shape
  | update => exact Input.shape
  | plain => exact Record.shape_plain
  | entity => exact Record.shape_entity

end

/-! ### What shapes have in common -/

namespace Part

namespace Shape

variable {s : Settings} {p : Part}

theorem exists_plan (h : p.Shape s) : ∀ x ∈ p.members, ∃ plan, x = s.member plan := by
  intro x hx
  cases h with
  | empty => simp [members] at hx
  | value plan _ => exact ⟨plan, by simpa [members] using hx⟩
  | object plan t _ => exact ⟨plan, by simpa [members] using hx⟩
  | relation plan? name isExported actions _ _ _ =>
      simp only [members, List.mem_append, Option.mem_toList, Option.map_eq_some_iff,
        Option.toList_some, List.flatMap_singleton, List.mem_map] at hx
      rcases hx with ⟨plan, -, rfl⟩ | ⟨a, -, rfl⟩
      · exact ⟨plan, rfl⟩
      · exact ⟨a.1, rfl⟩

theorem helper_extraModels (h : p.Shape s) : ∀ c ∈ p.helper?, c.extraModels = [] := by
  intro c hc
  cases h with
  | relation plan? name isExported actions _ _ _ =>
      rw [← Option.mem_some.mp hc]
  | _ => exact absurd hc (by simp)

theorem helper?_eq_none (h : p.Shape s) (hrecords : ∀ t ∈ p.references, t.kind.isInput = false) :
    p.helper? = none := by
  cases h with
  | relation plan? name isExported actions _ _ hinput =>
      obtain ⟨a, ha, hkind⟩ := hinput
      exact absurd (hrecords a.2 (List.mem_map_of_mem ha)) (by simp [hkind])
  | _ => rfl

/-- Only a helper brings classes that the documented API mentions through the file's class, and
it always does. -/
theorem extraModels_eq_nil_iff (h : p.Shape s) : p.extraModels = [] ↔ p.helper? = none := by
  cases h with
  | relation plan? name isExported actions _ _ _ => simp
  | _ => simp

/-- The class of a member is another output or the helper. -/
theorem class_of_member (h : p.Shape s) :
    ∀ x ∈ p.members, ∀ c ∈ x.type.className?,
      (∃ t ∈ p.references, c = t.className s) ∨ ∃ helper ∈ p.helper?, c = helper.name := by
  intro x hx c hc
  cases h with
  | empty => simp [members] at hx
  | value plan hclass =>
      have heq : x = s.member plan := by simpa [members] using hx
      simp [heq, hclass] at hc
  | object plan t hclass =>
      have heq : x = s.member plan := by simpa [members] using hx
      rw [heq, hclass] at hc
      exact Or.inl ⟨t, by simp, (Option.mem_some.mp hc).symm⟩
  | relation plan? name isExported actions hclass hactions _ =>
      simp only [members, List.mem_append, Option.mem_toList, Option.map_eq_some_iff,
        Option.toList_some, List.flatMap_singleton, List.mem_map] at hx
      rcases hx with ⟨plan, hplan, rfl⟩ | ⟨a, ha, rfl⟩
      · rw [hclass plan hplan] at hc
        exact Or.inr ⟨_, rfl, (Option.mem_some.mp hc).symm⟩
      · rw [hactions a ha] at hc
        exact Or.inl ⟨a.2, List.mem_map_of_mem ha, (Option.mem_some.mp hc).symm⟩

theorem class_of_extraModels (h : p.Shape s) :
    ∀ c ∈ p.extraModels,
      (∃ t ∈ p.references, c = t.className s) ∨ ∃ helper ∈ p.helper?, c = helper.name := by
  intro c hc
  cases h with
  | relation plan? name isExported actions _ _ _ =>
      rcases List.mem_append.mp hc with hc | hc
      · obtain ⟨t, ht, rfl⟩ := List.mem_map.mp hc
        exact Or.inl ⟨t, ht, rfl⟩
      · exact Or.inr ⟨_, rfl, List.mem_singleton.mp hc⟩
  | _ => exact absurd hc (by simp)

theorem exists_member (h : p.Shape s) :
    ∀ t ∈ p.references, ∃ x ∈ p.members, x.type.className? = some (t.className s) := by
  intro t ht
  cases h with
  | object plan u hclass =>
      rw [List.mem_singleton.mp ht]
      exact ⟨s.member plan, by simp [members], hclass⟩
  | relation plan? name isExported actions _ hactions _ =>
      obtain ⟨a, ha, rfl⟩ := List.mem_map.mp ht
      refine ⟨s.member a.1, ?_, hactions a ha⟩
      exact List.mem_append_right _ (by simpa using ⟨a.1, ⟨a.2, ha⟩, rfl⟩)
  | _ => exact absurd ht (by simp)

end Shape

end Part

end DtoForge
