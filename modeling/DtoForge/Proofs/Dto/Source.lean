/-
What the fields of a model give to its outputs.

A field gives an output a member and a helper, as far as there is one, and refers to other
outputs.  All of this follows from the kind of the output, the model, the field and the
settings, and for what it refers to not even the settings matter.  The data model only
decides whether there is a part at all: one that refers to something looks up the type of its
field.  Where the type is found, the lookup has left no trace, since it is found under its own
name.

So what is to be known about the parts of a file need only be known about what fields give,
and nothing can go wrong with a part but that the type of its field is not declared.
-/
import DtoForge.Dto.Connect
import DtoForge.Dto.Input
import DtoForge.Dto.Record
import DtoForge.Proofs.Dto.Assembly
import DtoForge.Proofs.Outcome

namespace DtoForge

/-! ### The outputs that a field refers to -/

namespace Input

/-- The outputs that a field refers to in an input of its model. -/
def targets (side : Side) (m : Model) (f : Field) : List Target :=
  if !side.isOpen m f then []
  else if f.isRelation then
    (RelationInput.actions side f).map fun action => ⟨action.2, f.type⟩
  else if !side.isKept m f then []
  else if f.isComposite then [⟨side.compositeKind f, f.type⟩]
  else []

end Input

namespace Record

/-- The outputs that a field refers to unless it is a relation. -/
def valueTargets (f : Field) : List Target :=
  if f.isComposite then [⟨.plain, f.type⟩] else []

end Record

/-- The outputs that a field refers to in an output of its model. -/
def Field.targets (m : Model) (f : Field) : DtoKind → List Target
  | .connect => []
  | .create => Input.targets .onCreate m f
  | .update => Input.targets .onUpdate m f
  | .plain => if f.has .entityHidden || f.isRelation then [] else Record.valueTargets f
  | .entity =>
    if f.has .entityHidden then []
    else if f.isRelation then [⟨.entity, f.type⟩]
    else Record.valueTargets f

/-- The outputs that a model refers to in its output of a kind. -/
def Model.targets (m : Model) (kind : DtoKind) : List Target :=
  m.fields.flatMap fun f => f.targets m kind

theorem Record.mem_valueTargets {f : Field} {t : Target} (h : t ∈ valueTargets f) :
    t = ⟨.plain, f.type⟩ := by
  unfold valueTargets at h
  split at h
  · exact List.mem_singleton.mp h
  · simp at h

theorem Field.isModifiable_iff {side : Side} {f : Field} :
    f.isModifiable side = true ↔
      f.has side.createMarker = true ∨ f.has side.connectMarker = true := by
  simp [isModifiable, documentedOneOf, Side.modifiers_eq, has]

theorem RelationInput.actions_ne_nil {side : Side} {f : Field}
    (h : f.isModifiable side = true) : actions side f ≠ [] := by
  unfold actions
  rcases Field.isModifiable_iff.mp h with hcreate | hconnect
  · simp [hcreate]
  · simp [hconnect]

theorem RelationInput.mem_of_mem_actions {side : Side} {f : Field} {action : String × DtoKind}
    (h : action ∈ actions side f) :
    action ∈ [("create", DtoKind.create), ("connect", DtoKind.connect)] := by
  rcases List.mem_append.mp h with h | h
  · split at h
    · rw [List.mem_singleton.mp h]
      decide
    · simp at h
  · split at h
    · rw [List.mem_singleton.mp h]
      decide
    · simp at h

theorem RelationInput.isInput_of_mem_actions {side : Side} {f : Field}
    {action : String × DtoKind} (h : action ∈ actions side f) : action.2.isInput = true := by
  have hinputs : ∀ action ∈ [("create", DtoKind.create), ("connect", DtoKind.connect)],
      action.2.isInput = true := by
    decide
  exact hinputs action (mem_of_mem_actions h)

theorem Side.compositeKind_cases (side : Side) (f : Field) :
    side.compositeKind f = .create ∨ side.compositeKind f = .update := by
  cases side with
  | onCreate => exact Or.inl rfl
  | onUpdate =>
      simp only [compositeKind]
      split
      · exact Or.inl rfl
      · exact Or.inr rfl

theorem Input.mem_targets {side : Side} {m : Model} {f : Field} {t : Target}
    (h : t ∈ targets side m f) : t.kind.isInput = true ∧ t.name = f.type := by
  unfold targets at h
  split at h
  · simp at h
  split at h
  · obtain ⟨action, haction, rfl⟩ := List.mem_map.mp h
    exact ⟨RelationInput.isInput_of_mem_actions haction, rfl⟩
  split at h
  · simp at h
  split at h
  · rw [List.mem_singleton.mp h]
    refine ⟨?_, rfl⟩
    rcases side.compositeKind_cases f with hkind | hkind <;> rw [hkind] <;> rfl
  · simp at h

theorem Field.mem_targets {m : Model} {f : Field} {kind : DtoKind} {t : Target}
    (h : t ∈ f.targets m kind) : t.kind.isInput = kind.isInput ∧ t.name = f.type := by
  cases kind with
  | connect => simp [targets] at h
  | create => exact Input.mem_targets h
  | update => exact Input.mem_targets h
  | plain =>
      simp only [targets] at h
      split at h
      · simp at h
      · rw [Record.mem_valueTargets h]
        exact ⟨rfl, rfl⟩
  | entity =>
      simp only [targets] at h
      split at h
      · simp at h
      · split at h
        · rw [List.mem_singleton.mp h]
          exact ⟨rfl, rfl⟩
        · rw [Record.mem_valueTargets h]
          exact ⟨rfl, rfl⟩

theorem Model.isInput_of_mem_targets {m : Model} {kind : DtoKind} {t : Target}
    (h : t ∈ m.targets kind) : t.kind.isInput = kind.isInput := by
  obtain ⟨f, -, ht⟩ := List.mem_flatMap.mp h
  exact (Field.mem_targets ht).1

/-! ### What a field gives to an input -/

/-- The member of a relation input for an action. -/
def RelationInput.member (s : Settings) (f : Field) (isOnly : Bool)
    (action : String × DtoKind) : Member :=
  s.member (plan f isOnly action.1 (s.className action.2 f.type))

/-- The class of a relation input. -/
def RelationInput.helper (s : Settings) (side : Side) (m : Model) (f : Field) : ClassDecl where
  name := className s side m f
  members := (actions side f).map (member s f ((actions side f).length == 1))
  isExported := s.exportRelationInputs
  extraModels := []

namespace Input

/-- The plan of a field that is in an input. -/
def plan (s : Settings) (side : Side) (m : Model) (f : Field) : Plan :=
  if f.isRelation then relationPlan side f (RelationInput.className s side m f)
  else if f.isComposite then plainPlan s side f (s.className (side.compositeKind f) f.type)
  else plainPlan s side f ""

/-- The member of a field that is in an input. -/
def member (s : Settings) (side : Side) (m : Model) (f : Field) : Member :=
  s.member (plan s side m f)

/-- The member that a field gives to an input. -/
def member? (s : Settings) (side : Side) (m : Model) (f : Field) : Option Member :=
  if side.isOpen m f && side.isKept m f then some (member s side m f) else none

/-- The helper that a field gives to an input. -/
def helper? (s : Settings) (side : Side) (m : Model) (f : Field) : Option ClassDecl :=
  if side.isOpen m f && f.isRelation then some (RelationInput.helper s side m f) else none

end Input

/-! ### What a field gives to a record -/

namespace Record

/-- The plan of a field that is no relation. -/
def plan (s : Settings) (f : Field) : Plan :=
  if f.isComposite then valuePlan s f (s.className .plain f.type) else valuePlan s f ""

/-- The member that a field gives to the plain class. -/
def plainMember? (s : Settings) (f : Field) : Option Member :=
  if f.has .entityHidden || f.isRelation then none else some (s.member (plan s f))

/-- The member that a field gives to the entity. -/
def entityMember? (s : Settings) (f : Field) : Option Member :=
  if f.has .entityHidden then none
  else if f.isRelation then some (s.member (relationPlan s f (s.className .entity f.type)))
  else some (s.member (plan s f))

end Record

/-! ### What a field gives to any output -/

/-- The member that a field gives to what names a record of its model. -/
def Connect.member? (s : Settings) (m : Model) (f : Field) : Option Member :=
  if f.isIdentifying then
    some (s.member (plan ((m.fields.filter Field.isIdentifying).length == 1) f))
  else none

/-- The member that a field gives to an output of its model. -/
def Field.member? (s : Settings) (m : Model) (f : Field) : DtoKind → Option Member
  | .connect => Connect.member? s m f
  | .create => Input.member? s .onCreate m f
  | .update => Input.member? s .onUpdate m f
  | .plain => Record.plainMember? s f
  | .entity => Record.entityMember? s f

/-- The helper that a field gives to an output of its model. -/
def Field.helper? (s : Settings) (m : Model) (f : Field) : DtoKind → Option ClassDecl
  | .create => Input.helper? s .onCreate m f
  | .update => Input.helper? s .onUpdate m f
  | _ => none

theorem Input.member?_eq_some_iff {s : Settings} {side : Side} {m : Model} {f : Field}
    {x : Member} :
    member? s side m f = some x ↔
      (side.isOpen m f = true ∧ side.isKept m f = true) ∧ member s side m f = x := by
  unfold member?
  split <;> simp_all

theorem Input.helper?_eq_some_iff {s : Settings} {side : Side} {m : Model} {f : Field}
    {c : ClassDecl} :
    helper? s side m f = some c ↔
      (side.isOpen m f = true ∧ f.isRelation = true) ∧ RelationInput.helper s side m f = c := by
  unfold helper?
  split <;> simp_all

theorem Field.helper?_eq_some_iff {s : Settings} {m : Model} {f : Field} {kind : DtoKind}
    {c : ClassDecl} :
    f.helper? s m kind = some c ↔
      ∃ side : Side, side.kind = kind ∧ Input.helper? s side m f = some c := by
  constructor
  · intro h
    cases kind with
    | create => exact ⟨.onCreate, rfl, h⟩
    | update => exact ⟨.onUpdate, rfl, h⟩
    | _ => exact absurd h (by simp [helper?])
  · rintro ⟨side, rfl, h⟩
    cases side with
    | onCreate => exact h
    | onUpdate => exact h

/-- A part with what its helper refers to and the helper itself mentioned in the documented
API. -/
def Part.of (s : Settings) (member? : Option Member) (helper? : Option ClassDecl)
    (references : List Target) : Part where
  member?
  helper?
  references
  extraModels := helper?.elim [] fun c => references.map (Target.className s) ++ [c.name]

/-- The part that a field gives to an output of its model. -/
def Field.given (s : Settings) (m : Model) (f : Field) (kind : DtoKind) : Part :=
  .of s (f.member? s m kind) (f.helper? s m kind) (f.targets m kind)

theorem Field.given_connect (s : Settings) (m : Model) (f : Field) :
    f.given s m .connect = .of s (Connect.member? s m f) none [] := rfl

theorem Field.given_input (s : Settings) (side : Side) (m : Model) (f : Field) :
    f.given s m side.kind
      = .of s (Input.member? s side m f) (Input.helper? s side m f) (Input.targets side m f) := by
  cases side <;> rfl

/-! ### Parts that are looked up -/

/-- The fault of a field whose type is not declared. -/
def Field.fault (m : Model) (f : Field) : Fault :=
  .unresolved m.name f.name f.type

/-- Whether a model or composite type has the name. -/
def Datamodel.declares (dm : Datamodel) (name : String) : Bool :=
  dm.models.any (·.name == name) || dm.types.any (·.name == name)

/-- A part of a field, provided that it refers to nothing or the type of the field is
declared. -/
def Datamodel.checked (dm : Datamodel) (m : Model) (f : Field) (p : Part) : Except Fault Part :=
  if p.references.isEmpty || dm.declares f.type then .ok p else .error (f.fault m)

/-- What a field contributes to an output of its model. -/
def Field.part (s : Settings) (dm : Datamodel) (m : Model) (f : Field) (kind : DtoKind) :
    Except Fault Part :=
  dm.checked m f (f.given s m kind)

namespace Datamodel

variable {dm : Datamodel} {m : Model} {f : Field} {p q : Part}

theorem checked_eq_ok_iff :
    dm.checked m f p = .ok q ↔ (p.references ≠ [] → dm.declares f.type = true) ∧ p = q := by
  unfold checked
  cases p.references <;> cases dm.declares f.type <;> simp

theorem checked_eq_error_iff {e : Fault} :
    dm.checked m f p = .error e ↔
      (p.references ≠ [] ∧ dm.declares f.type = false) ∧ e = f.fault m := by
  unfold checked
  cases p.references <;> cases dm.declares f.type <;> simp [eq_comm]

theorem checked_of_references_eq_nil (h : p.references = []) : dm.checked m f p = .ok p := by
  simp [checked, h]

theorem name_of_related? {name : String} {r : Model} (h : dm.related? name = some r) :
    r.name = name := by
  rcases Option.or_eq_some_iff.mp h with hmodel | ⟨-, htype⟩
  · simpa using List.find?_some hmodel
  · simpa using List.find?_some htype

theorem isSome_related? (dm : Datamodel) (name : String) :
    (dm.related? name).isSome = dm.declares name := by
  rw [related?, Option.isSome_or, model?, type?, List.isSome_find?, List.isSome_find?, declares]

/-- A part that refers to something is checked by looking up the type of its field, which is
found under its own name. -/
theorem resolve_bind {α : Type} {rest : Model → Except Fault α} {g : Part → α}
    (hp : p.references ≠ []) (hrest : ∀ r, r.name = f.type → rest r = .ok (g p)) :
    dm.resolve m f >>= rest = (dm.checked m f p).map g := by
  unfold resolve checked
  rw [← isSome_related?]
  cases hfound : dm.related? f.type with
  | none => simp [hp, Field.fault, Except.map, bind, Except.bind]
  | some r =>
      rw [Option.isSome_some, Bool.or_true]
      exact hrest r (name_of_related? hfound)

/-- All that the check asks of a part is whether it refers to something. -/
theorem checked_map_congr {α : Type} {g h : Part → α} (href : p.references = q.references)
    (hpq : g p = h q) : (dm.checked m f p).map g = (dm.checked m f q).map h := by
  unfold checked
  rw [href]
  split
  · exact congrArg Except.ok hpq
  · rfl

end Datamodel

/-- What an input may touch has a relation input that does something. -/
theorem Side.actions_ne_nil_of_isOpen {side : Side} {m : Model} {f : Field}
    (hopen : side.isOpen m f = true) (hrelation : f.isRelation = true) :
    RelationInput.actions side f ≠ [] := by
  simp only [isOpen, hrelation, Bool.and_eq_true, Bool.not_true, Bool.false_or] at hopen
  exact RelationInput.actions_ne_nil hopen.2

/-! ### Plans of inputs -/

/-- A plan with the name, the question mark and the null layer that a field has in an input. -/
structure Input.Plans (side : Side) (f : Field) (p : Plan) : Prop where
  name : p.descriptor.name = f.name
  isRequired : p.descriptor.isRequired = side.isRequired f
  /-- What is not required has the question mark. -/
  isOptional : p.isOptional = !side.isRequired f
  /-- Only what is no relation can be null. -/
  isNullable : p.isNullable = (!f.isRelation && !f.isRequired)

/-- Whatever a field is, it has such a plan in an input. -/
theorem Input.plans_plan (s : Settings) (side : Side) (m : Model) (f : Field) :
    Plans side f (plan s side m f) := by
  unfold plan
  split
  · next hrelation => exact ⟨rfl, rfl, rfl, by simp [relationPlan, hrelation]⟩
  · next hrelation =>
      split
      · exact ⟨rfl, rfl, rfl, by simp [plainPlan, hrelation]⟩
      · exact ⟨rfl, rfl, rfl, by simp [plainPlan, hrelation]⟩

end DtoForge
