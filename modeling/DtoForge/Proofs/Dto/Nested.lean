/-
Nested objects are told of alike.

A member whose field is an object names a class three times: in its type, in the documented
API, and where what comes in is made an object of it.  The plan of the member has one class for
the first two.  For the third it has a namer, which makes a class of the type that the plan puts
down, and the two could differ.  They do in entities, where the class of a relation is another
one than the namer makes of it; but a relation of an entity is not made an object.  Wherever
something is, the namer of the plan makes the class of the plan.

Which class that is follows from the kind of the file and the field.  A composite value is
of an output of its type, in an update of the one that replaces the value if it says so.  A
relation is of the related entity where it is read, and of its relation input where it is
written.  Only what is read from the database with its relations need not be made an object
again.
-/
import DtoForge.Proofs.ApiDoc.FieldOptions
import DtoForge.Proofs.Dto.Output
import DtoForge.Proofs.Validation.Synthesis

namespace DtoForge

namespace Member

/-- A member whose type, options and validators speak of one class. -/
structure Nests (x : Member) (c : String) : Prop where
  /-- Under an array layer and a null layer, as far as there are any, is the class. -/
  type : ∃ isList isNullable, x.type = (TypeExpr.classRef c).layered isList isNullable
  documented : x.api.isSome = true
  /-- One type is documented. -/
  options : x.options.filter (·.name == "type") = [⟨"type", "() => " ++ c⟩]
  /-- What comes in is made an object of no other class. -/
  validators : ∀ a ∈ x.validators, a.name = "Type" → a.argument = some ("() => " ++ c)

/-- Whether what comes in is made an object of some class. -/
def IsTransformed (x : Member) : Prop :=
  "Type" ∈ x.validators.map (·.name)

end Member

/-! ### Classes -/

/-- The class that an object is of in an input of its model. -/
def Input.objectClass (s : Settings) (side : Side) (m : Model) (f : Field) : String :=
  if f.isRelation then RelationInput.className s side m f
  else s.className (side.compositeKind f) f.type

/-- The class that an object is of in an output of its model.  No object names a record. -/
def Field.objectClass? (s : Settings) (m : Model) (f : Field) : DtoKind → Option String
  | .connect => none
  | .create => some (Input.objectClass s .onCreate m f)
  | .update => some (Input.objectClass s .onUpdate m f)
  | .plain => some (s.className .plain f.type)
  | .entity => some (s.className (if f.isRelation then .entity else .plain) f.type)

section

variable {s : Settings} {m : Model} {f : Field} {x : Member}

/-! ### Namers -/

/-- A plan whose namer makes its class, if its object is made an object of some class. -/
def Plan.IsCoherent (p : Plan) : Prop :=
  p.descriptor.isStructured = true → p.namer p.descriptor.type = p.className

theorem Connect.isCoherent_plan (isOnly : Bool) (hidentifying : f.isIdentifying = true) :
    (plan isOnly f).IsCoherent := by
  intro hcomposite
  have hkind : f.kind = .object := kind_of_isComposite hcomposite
  simp [Field.isIdentifying, hkind] at hidentifying

theorem RelationInput.isCoherent_plan (isOnly : Bool) (name c : String) :
    (plan f isOnly name c).IsCoherent :=
  fun _ => rfl

/-- The namer of an input makes the class of the output that its values are of. -/
theorem Input.namer_eq (s : Settings) (side : Side) (f : Field) (type : String) :
    namer s side f type = s.className (side.compositeKind f) type := by
  cases side with
  | onCreate => rfl
  | onUpdate => cases hfull : f.has .fullUpdate <;> simp [namer, Side.compositeKind, hfull]

theorem Input.isCoherent_plan (s : Settings) (side : Side) (m : Model) (f : Field) :
    (plan s side m f).IsCoherent := by
  unfold plan
  split
  · exact fun _ => rfl
  · split
    · exact fun _ => namer_eq s side f f.type
    · next hvalue => exact fun hcomposite => absurd hcomposite hvalue

theorem Record.isCoherent_plan (s : Settings) (f : Field) : (plan s f).IsCoherent := by
  unfold plan
  split
  · exact fun _ => rfl
  · next hvalue => exact fun hcomposite => absurd hcomposite hvalue

theorem Record.isStructured_relationPlan (hrelation : f.isRelation = true) (c : String) :
    (relationPlan s f c).descriptor.isStructured = false := by
  have hnamed : f.relationName.isSome = true := (Bool.and_eq_true_iff.mp hrelation).2
  simp only [relationPlan, Descriptor.isStructured, Field.descriptor, ← Option.not_isSome, hnamed,
    Bool.not_true, Bool.and_false]

/-- The class of a relation in an entity is not the one that the namer makes, but the relation is
not made an object. -/
theorem Record.isCoherent_relationPlan (hrelation : f.isRelation = true) (c : String) :
    (relationPlan s f c).IsCoherent := by
  intro hstructured
  rw [isStructured_relationPlan hrelation] at hstructured
  cases hstructured

/-- **Whatever a field gives to an output is the member of a coherent plan.** -/
theorem Field.exists_isCoherent {kind : DtoKind} (hx : f.member? s m kind = some x) :
    ∃ p : Plan, p.IsCoherent ∧ s.member p = x := by
  cases kind with
  | connect =>
      simp only [member?, Connect.member?, Option.ite_none_right_eq_some] at hx
      exact ⟨_, Connect.isCoherent_plan _ hx.1, Option.some.inj hx.2⟩
  | create | update =>
      obtain ⟨-, rfl⟩ := Input.member?_eq_some_iff.mp hx
      exact ⟨_, Input.isCoherent_plan s _ m f, rfl⟩
  | plain =>
      simp only [member?, Record.plainMember?, Option.ite_none_left_eq_some] at hx
      exact ⟨_, Record.isCoherent_plan s f, Option.some.inj hx.2⟩
  | entity =>
      simp only [member?, Record.entityMember?, Option.ite_none_left_eq_some] at hx
      obtain ⟨-, hx⟩ := hx
      split at hx
      · next hrelation =>
          exact ⟨_, Record.isCoherent_relationPlan hrelation _, Option.some.inj hx⟩
      · exact ⟨_, Record.isCoherent_plan s f, Option.some.inj hx⟩

/-! ### Members of plans -/

/-- **A member of a coherent plan tells of its object alike.** -/
theorem Settings.nests_member {p : Plan} (hcoherent : p.IsCoherent)
    (hvalidates : s.validates = true) (hdocuments : s.documents = true)
    (hkind : p.descriptor.kind = .object) : (s.member p).Nests p.className := by
  refine ⟨⟨p.descriptor.isList, p.isNullable, ?_⟩, isSome_api_member p hdocuments, ?_, ?_⟩
  · simp only [member, hkind, TypeExpr.ofKind]
  · rw [options_member p hdocuments]
    exact ApiProperty.ofField_filter_type _ _ _ _ hkind
  · intro a ha hname
    rw [validators_member p hvalidates] at ha
    have hstructured : p.descriptor.isStructured = true :=
      Validators.type_mem_names_synthesize.mp (List.mem_map.mpr ⟨a, ha, hname⟩)
    rw [Validators.argument_of_type ha hname, hcoherent hstructured]

theorem Settings.isTransformed_member (p : Plan) (hvalidates : s.validates = true) :
    (s.member p).IsTransformed ↔ p.descriptor.isStructured = true := by
  rw [Member.IsTransformed, validators_member p hvalidates, Validators.type_mem_names_synthesize]

/-! ### Members of inputs -/

theorem Input.nests_member (side : Side) (hvalidates : s.validates = true)
    (hdocuments : s.documents = true) (hkind : f.kind = .object) :
    (member s side m f).Nests (objectClass s side m f) ∧ (member s side m f).IsTransformed := by
  have hnests := Settings.nests_member (isCoherent_plan s side m f) hvalidates hdocuments
  have htransformed := Settings.isTransformed_member (plan s side m f) hvalidates
  unfold member objectClass
  unfold plan at hnests htransformed ⊢
  by_cases hrelation : f.isRelation = true
  · rw [if_pos hrelation] at hnests htransformed ⊢
    rw [if_pos hrelation]
    refine ⟨hnests hkind, htransformed.mpr ?_⟩
    -- The plan of a relation takes the relation for an embedded object.
    simp [relationPlan, Descriptor.isStructured, Field.descriptor, hkind]
  · have hcomposite := isComposite_of_kind hkind hrelation
    rw [if_neg hrelation, if_pos hcomposite] at hnests htransformed ⊢
    rw [if_neg hrelation]
    exact ⟨hnests hkind, htransformed.mpr hcomposite⟩

/-! ### Members of records -/

theorem Record.nests_member (hvalidates : s.validates = true) (hdocuments : s.documents = true)
    (hcomposite : f.isComposite = true) :
    (s.member (plan s f)).Nests (s.className .plain f.type) ∧
      (s.member (plan s f)).IsTransformed := by
  have hnests := Settings.nests_member (isCoherent_plan s f) hvalidates hdocuments
  have htransformed := Settings.isTransformed_member (plan s f) hvalidates
  unfold plan at hnests htransformed ⊢
  rw [if_pos hcomposite] at hnests htransformed ⊢
  exact ⟨hnests (kind_of_isComposite hcomposite), htransformed.mpr hcomposite⟩

theorem Record.nests_relation (hvalidates : s.validates = true) (hdocuments : s.documents = true)
    (hrelation : f.isRelation = true) (c : String) :
    (s.member (relationPlan s f c)).Nests c ∧ ¬ (s.member (relationPlan s f c)).IsTransformed := by
  refine ⟨Settings.nests_member (isCoherent_relationPlan hrelation c) hvalidates hdocuments
    (kind_of_isRelation hrelation), ?_⟩
  rw [Settings.isTransformed_member _ hvalidates, isStructured_relationPlan hrelation]
  exact Bool.false_ne_true

/-! ### Members of outputs -/

theorem Connect.member?_of_object (hkind : f.kind = .object) : member? s m f = none := by
  rw [member?, if_neg (by simp [Field.isIdentifying, hkind])]

theorem Input.nests {side : Side} (hvalidates : s.validates = true)
    (hdocuments : s.documents = true) (hkind : f.kind = .object)
    (hx : member? s side m f = some x) :
    x.Nests (objectClass s side m f) ∧ x.IsTransformed := by
  obtain ⟨-, rfl⟩ := member?_eq_some_iff.mp hx
  exact nests_member side hvalidates hdocuments hkind

theorem Record.nests_plain (hvalidates : s.validates = true) (hdocuments : s.documents = true)
    (hkind : f.kind = .object) (hx : plainMember? s f = some x) :
    x.Nests (s.className .plain f.type) ∧ x.IsTransformed := by
  unfold plainMember? at hx
  split at hx
  · exact absurd hx (by simp)
  · next hin =>
      rw [← Option.some.inj hx]
      refine nests_member hvalidates hdocuments (isComposite_of_kind hkind fun hrelation => ?_)
      exact hin (by simp [hrelation])

theorem Record.nests_entity (hvalidates : s.validates = true) (hdocuments : s.documents = true)
    (hkind : f.kind = .object) (hx : entityMember? s f = some x) :
    x.Nests (s.className (if f.isRelation then .entity else .plain) f.type) ∧
      (x.IsTransformed ↔ ¬ f.isRelation = true) := by
  unfold entityMember? at hx
  split at hx
  · exact absurd hx (by simp)
  · by_cases hrelation : f.isRelation = true
    · rw [if_pos hrelation] at hx ⊢
      obtain ⟨hnests, hread⟩ := nests_relation hvalidates hdocuments hrelation
        (s.className .entity f.type)
      rw [← Option.some.inj hx]
      exact ⟨hnests, by simp [hread, hrelation]⟩
    · rw [if_neg hrelation] at hx ⊢
      obtain ⟨hnests, hread⟩ := nests_member hvalidates hdocuments
        (isComposite_of_kind hkind hrelation)
      rw [← Option.some.inj hx]
      exact ⟨hnests, by simp [hread, hrelation]⟩

/-- **What an object gives to an output is of its class, and it is made an object of it unless
it is a relation of an entity.** -/
theorem Field.nests {kind : DtoKind} (hvalidates : s.validates = true)
    (hdocuments : s.documents = true) (hkind : f.kind = .object)
    (hx : f.member? s m kind = some x) :
    ∃ c ∈ f.objectClass? s m kind,
      x.Nests c ∧ (x.IsTransformed ↔ ¬ (kind = .entity ∧ f.isRelation = true)) := by
  cases kind with
  | connect =>
      rw [member?, Connect.member?_of_object hkind] at hx
      exact absurd hx (by simp)
  | create =>
      obtain ⟨hnests, hread⟩ := Input.nests hvalidates hdocuments hkind hx
      exact ⟨_, rfl, hnests, by simp [hread]⟩
  | update =>
      obtain ⟨hnests, hread⟩ := Input.nests hvalidates hdocuments hkind hx
      exact ⟨_, rfl, hnests, by simp [hread]⟩
  | plain =>
      obtain ⟨hnests, hread⟩ := Record.nests_plain hvalidates hdocuments hkind hx
      exact ⟨_, rfl, hnests, by simp [hread]⟩
  | entity =>
      obtain ⟨hnests, hread⟩ := Record.nests_entity hvalidates hdocuments hkind hx
      exact ⟨_, rfl, hnests, by simp [hread]⟩

theorem Input.exists_helper {side : Side} (hrelation : f.isRelation = true)
    (hx : member? s side m f = some x) :
    ∃ c, helper? s side m f = some c ∧ c.name = objectClass s side m f := by
  obtain ⟨⟨hopen, -⟩, -⟩ := member?_eq_some_iff.mp hx
  refine ⟨_, helper?_eq_some_iff.mpr ⟨⟨hopen, hrelation⟩, rfl⟩, ?_⟩
  rw [objectClass, if_pos hrelation]
  rfl

theorem Field.exists_helper_of_isRelation {kind : DtoKind} (hinput : kind.isInput = true)
    (hrelation : f.isRelation = true) (hx : f.member? s m kind = some x) :
    ∃ c, f.helper? s m kind = some c ∧ f.objectClass? s m kind = some c.name := by
  cases kind with
  | connect =>
      rw [member?, Connect.member?_of_object (kind_of_isRelation hrelation)] at hx
      exact absurd hx (by simp)
  | create =>
      obtain ⟨c, hc, hname⟩ := Input.exists_helper hrelation hx
      exact ⟨c, hc, congrArg some hname.symm⟩
  | update =>
      obtain ⟨c, hc, hname⟩ := Input.exists_helper hrelation hx
      exact ⟨c, hc, congrArg some hname.symm⟩
  | plain => simp [DtoKind.isInput] at hinput
  | entity => simp [DtoKind.isInput] at hinput

theorem Field.nests_helper {kind : DtoKind} {c : ClassDecl} (hvalidates : s.validates = true)
    (hdocuments : s.documents = true) (hc : f.helper? s m kind = some c) (hx : x ∈ c.members) :
    ∃ k, (x.name, k) ∈ [("create", DtoKind.create), ("connect", DtoKind.connect)] ∧
      x.Nests (s.className k f.type) ∧ x.IsTransformed := by
  obtain ⟨side, -, hside⟩ := helper?_eq_some_iff.mp hc
  obtain ⟨-, rfl⟩ := Input.helper?_eq_some_iff.mp hside
  obtain ⟨action, haction, rfl⟩ := List.mem_map.mp hx
  refine ⟨action.2, RelationInput.mem_of_mem_actions haction, ?_, ?_⟩
  · exact Settings.nests_member (RelationInput.isCoherent_plan _ _ _) hvalidates hdocuments rfl
  · exact (Settings.isTransformed_member _ hvalidates).mpr rfl

end

/-! ### Files -/

namespace Dto

/-- A file that holds the objects of a model and tells of each of them alike. -/
structure Nests (s : Settings) (m : Model) (d : Dto) : Prop where
  holds : d.Holds s m
  /-- Only the relations of entities are not made objects. -/
  members : ∀ f ∈ m.fields, f.kind = .object → ∀ x ∈ f.member? s m d.kind,
    ∃ c ∈ f.objectClass? s m d.kind,
      x.Nests c ∧ (x.IsTransformed ↔ ¬ (d.kind = .entity ∧ f.isRelation = true))
  /-- The relations of inputs are of classes of the same file. -/
  relations : d.kind.isInput = true → ∀ f ∈ m.fields, f.isRelation = true →
    ∀ x ∈ f.member? s m d.kind, ∃ c ∈ d.helpers, x.Nests c.name
  /-- The members of these are of the inputs of the related record. -/
  helpers : ∀ f ∈ m.fields, ∀ c ∈ f.helper? s m d.kind, ∀ x ∈ c.members,
    ∃ kind, (x.name, kind) ∈ [("create", DtoKind.create), ("connect", DtoKind.connect)] ∧
      x.Nests (s.className kind f.type) ∧ x.IsTransformed

/-- **Every file with validators and documentation tells of nested objects alike.** -/
theorem nests_of_mem_all {s : Settings} {dm : Datamodel} {models : List Model} {dtos : List Dto}
    {d : Dto} (hout : s.outputType = .classes) (hvalidation : s.classValidation = true)
    (hdependencies : s.noDependencies = false) (hall : all s dm models = .ok dtos)
    (hd : d ∈ dtos) : ∃ m ∈ dm.types ++ models, d.Nests s m := by
  have hvalidates := s.validates_eq_true hout hvalidation
  have hdocuments := s.documents_eq_true hout hdependencies
  obtain ⟨m, hm, hholds⟩ := exists_holds_of_mem_all hall hd
  refine ⟨m, hm, hholds, ?_, ?_, ?_⟩
  · intro f _ hkind x hx
    exact Field.nests hvalidates hdocuments hkind hx
  · intro hinput f hf hrelation x hx
    obtain ⟨c, hc, hname⟩ := Field.exists_helper_of_isRelation hinput hrelation hx
    obtain ⟨c', hc', hnests, -⟩ :=
      Field.nests hvalidates hdocuments (kind_of_isRelation hrelation) hx
    rw [hname] at hc'
    rw [← Option.mem_some.mp hc'] at hnests
    refine ⟨c, ?_, hnests⟩
    rw [hholds.helpers]
    exact List.mem_filterMap.mpr ⟨f, hf, hc⟩
  · intro f _ c hc x hx
    exact Field.nests_helper hvalidates hdocuments hc hx

/-- Customers with an address of a composite type and with orders. -/
def shop : Datamodel where
  types := [
    { name := "Address"
      fields := [{ name := "street", kind := .scalar, type := "String", isRequired := true }] }]
  models := [
    { name := "Customer"
      fields := [
        { name := "id", kind := .scalar, type := "Int", isRequired := true, isId := true },
        { name := "address", kind := .object, type := "Address", isRequired := true },
        { name := "orders", kind := .object, type := "Order", isRequired := true, isList := true
          relationName := some "CustomerToOrder"
          documentation := some "@DtoRelationCanCreateOnCreate @DtoRelationCanConnectOnUpdate" }] },
    { name := "Order"
      fields := [
        { name := "id", kind := .scalar, type := "Int", isRequired := true, isId := true },
        { name := "customer", kind := .object, type := "Customer", isRequired := true
          relationName := some "CustomerToOrder" }] }]

/-- The shop with validators: among its files is an update with an address and a relation input,
and all nested objects are told of alike. -/
theorem nests_shop :
    ∃ dtos, all { classValidation := true } shop shop.models = .ok dtos ∧
      (∃ d ∈ dtos, d.kind = .update ∧ d.helpers ≠ [] ∧
        ∃ x ∈ d.members, x.type.className? = some "UpdateAddressDto") ∧
        ∀ d ∈ dtos, ∃ m ∈ shop.types ++ shop.models, d.Nests { classValidation := true } m := by
  have hok : (all { classValidation := true } shop shop.models).toOption.any
      (fun dtos => dtos.any fun d => decide (d.kind = .update ∧ d.helpers ≠ []
        ∧ ∃ x ∈ d.members, x.type.className? = some "UpdateAddressDto")) = true := by
    decide +kernel
  obtain ⟨dtos, hall, hfound⟩ := exists_ok_of_any hok
  simp only [List.any_eq_true, decide_eq_true_eq] at hfound
  exact ⟨dtos, hall, hfound, fun d hd => nests_of_mem_all rfl rfl rfl hall hd⟩

end Dto

end DtoForge
