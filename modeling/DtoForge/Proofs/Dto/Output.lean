/-
What a run puts out.

Every output is one kind of one model, put together from what the fields of the model give to
it.  So it holds their members and helpers and refers to what they refer to.  A run puts out
the kinds of the composite types and then those of the models, in order, and whether one is
there depends on the data model alone.
-/
import DtoForge.Dto.Generation
import DtoForge.Proofs.Dto.Draft

namespace DtoForge

/-! ### Names of a data model -/

/-- The names of models and composite types. -/
def Datamodel.names (dm : Datamodel) : List String :=
  (dm.models ++ dm.types).map (·.name)

theorem Datamodel.declares_iff {dm : Datamodel} {name : String} :
    dm.declares name = true ↔ name ∈ dm.names := by
  simp only [declares, names, Bool.or_eq_true, List.any_eq_true, beq_iff_eq, List.map_append,
    List.mem_append, List.mem_map]

/-! ### One output -/

namespace Dto

/-- The classes that the file speaks of: in the types of its members, and for the documented
API. -/
def mentions (d : Dto) : List String :=
  d.allMembers.filterMap (·.type.className?) ++ d.extraModels

theorem mem_extraModels_ofParts {s : Settings} {self : Target} {parts : List Part} {c : String} :
    c ∈ (ofParts s self parts).extraModels ↔ ∃ p ∈ parts, c ∈ p.extraModels := by
  simp [ofParts, Import.mem_foldl_addName, List.mem_flatMap]

/-- A file that is the output of a kind for a model. -/
def IsOf (s : Settings) (dm : Datamodel) (m : Model) (kind : DtoKind) (d : Dto) : Prop :=
  ∃ parts : List Part, d = ofParts s ⟨kind, m.name⟩ parts ∧ (∀ p ∈ parts, p.Shape s) ∧
    parts.flatMap (·.references) = m.targets kind ∧
      ∀ t ∈ m.targets kind, dm.declares t.name = true

section

variable {s : Settings} {dm : Datamodel} {m : Model} {kind : DtoKind} {d : Dto}

namespace IsOf

theorem kind_eq (h : IsOf s dm m kind d) : d.kind = kind := by
  obtain ⟨parts, rfl, -⟩ := h
  rfl

theorem className_eq (h : IsOf s dm m kind d) : d.className = s.className kind m.name := by
  obtain ⟨parts, rfl, -⟩ := h
  rfl

theorem directory_eq (h : IsOf s dm m kind d) :
    d.directory = (Target.mk kind m.name).directory s := by
  obtain ⟨parts, rfl, -⟩ := h
  rfl

theorem path_eq (h : IsOf s dm m kind d) : d.path = (Target.mk kind m.name).path s := by
  obtain ⟨parts, rfl, -⟩ := h
  rfl

theorem declares (h : IsOf s dm m kind d) :
    ∀ t ∈ m.targets kind, dm.declares t.name = true := by
  obtain ⟨parts, -, -, -, hdeclared⟩ := h
  exact hdeclared

theorem exists_plan (h : IsOf s dm m kind d) :
    ∀ x ∈ d.allMembers, ∃ plan, x = s.member plan := by
  obtain ⟨parts, rfl, hshape, -⟩ := h
  intro x hx
  obtain ⟨p, hp, hxp⟩ := mem_allMembers_ofParts.mp hx
  exact (hshape p hp).exists_plan x hxp

theorem helper_extraModels (h : IsOf s dm m kind d) :
    ∀ c ∈ d.helpers, c.extraModels = [] := by
  obtain ⟨parts, rfl, hshape, -⟩ := h
  intro c hc
  obtain ⟨p, hp, hcp⟩ := List.mem_filterMap.mp hc
  exact (hshape p hp).helper_extraModels c hcp

/-- Classes that the documented API mentions through the file's class come with helpers. -/
theorem extraModels_eq_nil_iff (h : IsOf s dm m kind d) : d.extraModels = [] ↔ d.helpers = [] := by
  obtain ⟨parts, rfl, hshape, -⟩ := h
  have hparts : (∀ p ∈ parts, p.extraModels = []) ↔ ∀ p ∈ parts, p.helper? = none :=
    forall₂_congr fun p hp => (hshape p hp).extraModels_eq_nil_iff
  show _ ↔ parts.filterMap (·.helper?) = []
  rw [List.filterMap_eq_nil_iff, ← hparts]
  simp only [List.eq_nil_iff_forall_not_mem, mem_extraModels_ofParts]
  exact ⟨fun hnone p hp c hc => hnone c ⟨p, hp, hc⟩, fun hnone c ⟨p, hp, hc⟩ => hnone p hp c hc⟩

theorem helpers_eq_nil (h : IsOf s dm m kind d)
    (hrecords : ∀ t ∈ m.targets kind, t.kind.isInput = false) : d.helpers = [] := by
  obtain ⟨parts, rfl, hshape, href, -⟩ := h
  rw [← href] at hrecords
  refine List.filterMap_eq_nil_iff.mpr fun p hp => ?_
  exact (hshape p hp).helper?_eq_none fun t ht => hrecords t (List.mem_flatMap.mpr ⟨p, hp, ht⟩)

end IsOf

/-! ### Assembling -/

/-- A file that is put together from what the fields of a model contribute. -/
def IsAssembled (s : Settings) (dm : Datamodel) (m : Model) (kind : DtoKind) (d : Dto) : Prop :=
  ∃ parts, List.Forall₂ (fun f p => f.part s dm m kind = .ok p) m.fields parts ∧
    d = ofParts s ⟨kind, m.name⟩ parts

theorem isAssembled_iff :
    IsAssembled s dm m kind d ↔
      (∀ f ∈ m.fields, f.targets m kind ≠ [] → dm.declares f.type = true) ∧
        d = ofParts s ⟨kind, m.name⟩ (m.fields.map (·.given s m kind)) := by
  have hparts : ∀ parts, List.Forall₂ (fun f p => f.part s dm m kind = .ok p) m.fields parts ↔
      (∀ f ∈ m.fields, f.targets m kind ≠ [] → dm.declares f.type = true) ∧
        m.fields.map (·.given s m kind) = parts := by
    intro parts
    simp only [Field.part, Datamodel.checked_eq_ok_iff]
    rw [List.forall₂_and_left, ← List.forall₂_map_left_iff, List.forall₂_eq_eq_eq]
    rfl
  simp only [IsAssembled, hparts, and_assoc, exists_and_left, exists_eq_left']

theorem IsAssembled.isOf (h : IsAssembled s dm m kind d) : IsOf s dm m kind d := by
  obtain ⟨hdeclared, rfl⟩ := isAssembled_iff.mp h
  refine ⟨_, rfl, ?_, ?_, ?_⟩
  · intro p hp
    obtain ⟨f, -, rfl⟩ := List.mem_map.mp hp
    exact f.shape kind
  · rw [List.flatMap_map]
    rfl
  · intro t ht
    obtain ⟨f, hf, ht⟩ := List.mem_flatMap.mp ht
    rw [(Field.mem_targets ht).2]
    exact hdeclared f hf (List.ne_nil_of_mem ht)

/-- A file that holds what the fields of a model give to it, and nothing else. -/
structure Holds (s : Settings) (m : Model) (d : Dto) : Prop where
  className : d.className = s.className d.kind m.name
  members : d.members = m.fields.filterMap (·.member? s m d.kind)
  helpers : d.helpers = m.fields.filterMap (·.helper? s m d.kind)

theorem IsAssembled.holds (h : IsAssembled s dm m kind d) : d.Holds s m := by
  obtain ⟨-, rfl⟩ := isAssembled_iff.mp h
  exact ⟨rfl, List.filterMap_map, List.filterMap_map⟩

/-- The output of a kind for a model, put together from what the fields of the model
contribute. -/
def assemble (s : Settings) (dm : Datamodel) (m : Model) (kind : DtoKind) : Except Fault Dto :=
  (m.fields.mapM fun f : Field => f.part s dm m kind).map (ofParts s ⟨kind, m.name⟩)

theorem assemble_eq_ok_iff : assemble s dm m kind = .ok d ↔ IsAssembled s dm m kind d := by
  simp only [assemble, map_eq_ok_iff, mapM_eq_ok_iff, IsAssembled, eq_comm (a := d)]

/-- **Drafting a file field by field puts it together from what the fields contribute.** -/
theorem finish_foldlM {add : Draft → Field → Except Fault Draft}
    (hadd : ∀ d f, add d f = (f.part s dm m kind).map (d.take s ⟨kind, m.name⟩)) :
    (m.fields.foldlM add {} >>= fun d => .ok (d.finish kind (s.className kind m.name)
      (s.directory kind m.name) (kind.fileName m.name))) = assemble s dm m kind := by
  rw [foldlM_eq_map_foldl hadd, map_bind_ok]
  refine map_congr fun parts hparts => Draft.finish_foldl_take fun p hp => ?_
  obtain ⟨f, -, hpart⟩ := exists_of_forall₂_right (mapM_eq_ok_iff.mp hparts) p hp
  rw [← (Datamodel.checked_eq_ok_iff.mp hpart).2]
  exact f.shape kind

theorem input_eq (side : Side) : input s dm side m = assemble s dm m side.kind :=
  finish_foldlM fun d _ => Input.add_eq d

theorem plain_eq : plain s dm m = assemble s dm m .plain :=
  finish_foldlM fun d _ => Record.addPlain_eq d

theorem entity_eq : entity s dm m = assemble s dm m .entity :=
  finish_foldlM fun d _ => Record.addEntity_eq d

theorem isAssembled_input {side : Side} (h : input s dm side m = .ok d) :
    IsAssembled s dm m side.kind d :=
  assemble_eq_ok_iff.mp (input_eq side ▸ h)

/-- Lists of parts that contribute the same, whatever is taken from them.  An empty part
contributes nothing. -/
def ContributeAlike (parts parts' : List Part) : Prop :=
  ∀ {β : Type} (of : Part → List β), of {} = [] → parts.flatMap of = parts'.flatMap of

/-- A file holds nothing of its parts but what they contribute. -/
theorem ofParts_congr {parts parts' : List Part} (h : ContributeAlike parts parts')
    (self : Target) : ofParts s self parts = ofParts s self parts' := by
  unfold ofParts
  rw [List.filterMap_eq_flatMap_toList, List.filterMap_eq_flatMap_toList,
    List.filterMap_eq_flatMap_toList, List.filterMap_eq_flatMap_toList,
    h (·.member?.toList) rfl, h (·.helper?.toList) rfl, h (·.references) rfl,
    h (·.extraModels) rfl]

theorem ofParts_filter (self : Target) (keeps : Field → Bool) (part : Field → Part)
    (fields : List Field) :
    ofParts s self ((fields.filter keeps).map part)
      = ofParts s self (fields.map fun f => if keeps f then part f else {}) := by
  refine ofParts_congr (fun {β} of hnil => ?_) self
  induction fields with
  | nil => rfl
  | cons f fields ih => cases hkept : keeps f <;> simp [hkept, hnil, ih]

theorem assemble_connect : assemble s dm m .connect
    = .ok (ofParts s ⟨.connect, m.name⟩ (m.fields.map (·.given s m .connect))) := by
  have hparts : m.fields.mapM (fun f : Field => f.part s dm m .connect)
      = .ok (m.fields.map (·.given s m .connect)) :=
    mapM_eq_ok_map fun _ _ => Datamodel.checked_of_references_eq_nil rfl
  rw [assemble, hparts]
  rfl

/-- Fields that do not identify a record might as well be drafted with the others. -/
theorem finish_connect (s : Settings) (m : Model) {isOnly : Bool}
    (honly : isOnly = ((m.fields.filter Field.isIdentifying).length == 1)) :
    (((m.fields.filter Field.isIdentifying).map fun f => s.member (Connect.plan isOnly f)).foldl
        Draft.push {}).finish .connect (s.className .connect m.name) (s.directory .connect m.name)
          (DtoKind.connect.fileName m.name)
      = ofParts s ⟨.connect, m.name⟩ (m.fields.map (·.given s m .connect)) := by
  have hgiven : m.fields.map (·.given s m .connect)
      = m.fields.map fun f => if f.isIdentifying then f.given s m .connect else {} := by
    refine List.map_congr_left fun f _ => ?_
    rw [Field.given_connect, Connect.member?]
    split <;> rfl
  have htake : ((m.fields.filter Field.isIdentifying).map fun f =>
      s.member (Connect.plan isOnly f)).foldl Draft.push {}
        = ((m.fields.filter Field.isIdentifying).map (·.given s m .connect)).foldl
            (Draft.take s ⟨.connect, m.name⟩) {} := by
    rw [List.foldl_map, List.foldl_map]
    refine List.foldl_ext _ _ _ fun d f hf => ?_
    rw [Field.given_connect, Connect.member?, if_pos (List.mem_filter.mp hf).2, honly]
    rfl
  rw [hgiven, ← ofParts_filter, htake]
  refine Draft.finish_foldl_take fun p hp => ?_
  obtain ⟨f, -, rfl⟩ := List.mem_map.mp hp
  exact f.shape .connect

theorem connect?_eq (s : Settings) (m : Model) :
    connect? s m = if m.fields.any Field.isIdentifying then
      some (ofParts s ⟨.connect, m.name⟩ (m.fields.map (·.given s m .connect))) else none := by
  have hany : m.fields.any Field.isIdentifying = true ↔
      m.fields.filter Field.isIdentifying ≠ [] := by
    rw [ne_eq, List.filter_eq_nil_iff]
    simp
  unfold connect?
  split
  · next hnil => rw [if_neg fun h => hany.mp h hnil]
  · next hne =>
      rw [if_pos (hany.mpr hne)]
      exact congrArg some (finish_connect s m rfl)

end

end Dto

/-! ### A whole run -/

/-- The kinds of output of a composite type. -/
def Model.typeKinds : List DtoKind :=
  [.create, .update, .plain]

/-- The kinds of output of a model. -/
def Model.kinds (m : Model) : List DtoKind :=
  (if m.fields.any Field.isIdentifying then [.connect] else [])
    ++ [.create, .update, .entity, .plain]

/-- What a run for the given models puts out. -/
def Datamodel.outputs (dm : Datamodel) (models : List Model) : List (Model × DtoKind) :=
  (dm.types.filter (!·.isIgnored)).flatMap (fun t => Model.typeKinds.map (t, ·))
    ++ (models.filter (!·.isIgnored)).flatMap fun m => m.kinds.map (m, ·)

theorem Model.connect_mem_kinds {m : Model} :
    .connect ∈ m.kinds ↔ m.fields.any Field.isIdentifying = true := by
  unfold kinds
  split <;> simp_all

theorem Model.mem_kinds_of_ne_connect {m : Model} {kind : DtoKind} (h : kind ≠ .connect) :
    kind ∈ m.kinds := by
  unfold kinds
  cases kind <;> simp_all

theorem Model.mem_typeKinds {kind : DtoKind} :
    kind ∈ Model.typeKinds ↔ kind ≠ .connect ∧ kind ≠ .entity := by
  cases kind <;> simp [Model.typeKinds]

theorem Datamodel.mem_outputs_iff {dm : Datamodel} {models : List Model} {m : Model}
    {kind : DtoKind} :
    (m, kind) ∈ dm.outputs models ↔
      m.isIgnored = false ∧
        ((m ∈ dm.types ∧ kind ∈ Model.typeKinds) ∨ (m ∈ models ∧ kind ∈ m.kinds)) := by
  simp only [outputs, List.mem_append, List.mem_flatMap, List.mem_filter, List.mem_map,
    Prod.mk.injEq, Bool.not_eq_true']
  constructor
  · rintro (⟨t, ⟨ht, hkept⟩, k, hk, rfl, rfl⟩ | ⟨t, ⟨ht, hkept⟩, k, hk, rfl, rfl⟩)
    · exact ⟨hkept, Or.inl ⟨ht, hk⟩⟩
    · exact ⟨hkept, Or.inr ⟨ht, hk⟩⟩
  · rintro ⟨hkept, ⟨hm, hk⟩ | ⟨hm, hk⟩⟩
    · exact Or.inl ⟨m, ⟨hm, hkept⟩, kind, hk, rfl, rfl⟩
    · exact Or.inr ⟨m, ⟨hm, hkept⟩, kind, hk, rfl, rfl⟩

theorem Datamodel.mem_of_mem_outputs {dm : Datamodel} {models : List Model}
    {o : Model × DtoKind} (h : o ∈ dm.outputs models) : o.1 ∈ dm.types ∨ o.1 ∈ models :=
  (mem_outputs_iff.mp h).2.imp And.left And.left

namespace Dto

section

variable {s : Settings} {dm : Datamodel}

/-- Outputs and files, one for one. -/
abbrev Matches (s : Settings) (dm : Datamodel) : List (Model × DtoKind) → List Dto → Prop :=
  List.Forall₂ fun o d => IsOf s dm o.1 o.2 d

/-- Outputs and assembled files, one for one. -/
abbrev Assembles (s : Settings) (dm : Datamodel) : List (Model × DtoKind) → List Dto → Prop :=
  List.Forall₂ fun o d => IsAssembled s dm o.1 o.2 d

theorem ofType_eq (t : Model) :
    ofType s dm t = (Model.typeKinds.map (t, ·)).mapM fun o => assemble s dm o.1 o.2 := by
  simp only [ofType, input_eq, plain_eq, Model.typeKinds, Side.kind, List.map_cons, List.map_nil,
    List.mapM_cons, List.mapM_nil, bind_assoc, pure_bind]
  rfl

theorem ofModel_eq (m : Model) :
    ofModel s dm m = (m.kinds.map (m, ·)).mapM fun o => assemble s dm o.1 o.2 := by
  simp only [ofModel, connect?_eq, input_eq, plain_eq, entity_eq, Model.kinds, Side.kind]
  cases m.fields.any Field.isIdentifying with
  | false =>
      simp only [Bool.false_eq_true, ↓reduceIte, List.nil_append, List.map_cons, List.map_nil,
        List.mapM_cons, List.mapM_nil, bind_assoc, pure_bind]
      rfl
  | true =>
      simp only [↓reduceIte, List.cons_append, List.nil_append, List.map_cons, List.map_nil,
        List.mapM_cons, List.mapM_nil, bind_assoc, pure_bind, assemble_connect]
      rfl

/-- **A run assembles its outputs one after the other.** -/
theorem all_eq (models : List Model) :
    all s dm models = (dm.outputs models).mapM fun o => assemble s dm o.1 o.2 := by
  rw [Datamodel.outputs, List.mapM_append, mapM_flatMap, mapM_flatMap]
  simp only [← ofType_eq, ← ofModel_eq, all]
  cases (dm.types.filter (!·.isIgnored)).mapM (ofType s dm) with
  | error e => rfl
  | ok types =>
      cases (models.filter (!·.isIgnored)).mapM (ofModel s dm) with
      | error e => rfl
      | ok files => rfl

/-- **A run that succeeds has one file for each of its outputs, in order.** -/
theorem assembles_all {models : List Model} {dtos : List Dto} (h : all s dm models = .ok dtos) :
    Assembles s dm (dm.outputs models) dtos := by
  rw [all_eq] at h
  exact (mapM_eq_ok_iff.mp h).imp fun _ _ => assemble_eq_ok_iff.mp

theorem matches_all {models : List Model} {dtos : List Dto} (h : all s dm models = .ok dtos) :
    Matches s dm (dm.outputs models) dtos :=
  (assembles_all h).imp fun _ _ => IsAssembled.isOf

/-- **Every file of a run holds what the fields of one of its models give to it.** -/
theorem exists_holds_of_mem_all {models : List Model} {dtos : List Dto} {d : Dto}
    (hall : all s dm models = .ok dtos) (hd : d ∈ dtos) :
    ∃ m ∈ dm.types ++ models, d.Holds s m := by
  obtain ⟨⟨m, kind⟩, ho, h⟩ := exists_of_forall₂_right (assembles_all hall) d hd
  exact ⟨m, List.mem_append.mpr (Datamodel.mem_of_mem_outputs ho), h.holds⟩

end

end Dto

/-- With a star to include and nothing to exclude, every model is taken. -/
theorem selectedModels_all {s : Settings} (hinclude : s.includeModels = "*")
    (hexclude : s.excludeModels = "") (dm : Datamodel) : selectedModels s dm = dm.models := by
  have hselects : ∀ name, s.selects name = true := by
    intro name
    have hstar : Settings.isAll "*" = true := by decide +kernel
    have hnone : (Settings.namesIn "").filter (· != "") = [] := by decide +kernel
    simp [Settings.selects, hinclude, hexclude, hstar, hnone]
  exact List.filter_eq_self.mpr fun m _ => hselects m.name

/-- Everything that is generated comes from files as data. -/
theorem generate_eq_ok {s : Settings} {dm : Datamodel} {files : List GeneratedFile}
    (h : generate s dm = .ok files) :
    ∃ dtos, Dto.all s dm (selectedModels s dm) = .ok dtos ∧
      files = dtos.map (Dto.file s)
        ++ if s.reExport then (directories dtos).map (indexOf s dtos) else [] := by
  obtain ⟨-, -, h⟩ := bind_eq_ok_iff.mp h
  obtain ⟨dtos, hall, h⟩ := bind_eq_ok_iff.mp h
  exact ⟨dtos, hall, (Except.ok.inj h).symm⟩

/-! ### An example -/

/-- Users who write posts, which a new user can bring along or take over. -/
def Datamodel.blog : Datamodel where
  models := [
    { name := "User"
      fields := [
        { name := "id", kind := .scalar, type := "Int", isRequired := true, isId := true },
        { name := "posts", kind := .object, type := "Post", isRequired := true, isList := true
          relationName := some "PostToUser"
          documentation := some "@DtoRelationCanCreateOnCreate @DtoRelationCanConnectOnCreate" }] },
    { name := "Post"
      fields := [
        { name := "id", kind := .scalar, type := "Int", isRequired := true, isId := true },
        { name := "author", kind := .object, type := "User", isRequired := true
          relationName := some "PostToUser" }] }]

end DtoForge
