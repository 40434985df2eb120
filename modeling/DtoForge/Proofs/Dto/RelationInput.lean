/-
What relation inputs offer.

An input has a class for each relation that it may touch.  What the class offers is decided by
the markers of the relation for that input: to create the related record, to connect it, or
either.  Whichever it is, the record is created or connected by an input of its own, and that
is so on an update, too.

The classes that the documented API mentions only through the class of the file come with the
relation inputs: these classes and the classes of their members, each once, whatever other
relations mention.  So a file without relation inputs mentions none.
-/
import DtoForge.Proofs.Dto.Admission

namespace DtoForge

/-! ### Relations that an input may touch -/

namespace Side

/-- A relation that an input of its model may touch. -/
structure Touches (side : Side) (m : Model) (f : Field) : Prop where
  relation : f.isRelation = true
  /-- Of what is read-only, only the foreign keys that are to be kept. -/
  writable : f.isReadOnly = true ∨ f.has .readOnly = true → f.IsKeyOf m ∧ f.has .includeId = true
  modifier : f.has side.createMarker = true ∨ f.has side.connectMarker = true

variable {side : Side} {m : Model} {f : Field}

theorem touches_iff : side.Touches m f ↔ side.isOpen m f = true ∧ f.isRelation = true := by
  have hwritable : (!f.isClosed || m.keepsKey f) = true ↔
      (f.isReadOnly = true ∨ f.has .readOnly = true → f.IsKeyOf m ∧ f.has .includeId = true) := by
    rw [Bool.or_eq_true, Bool.not_eq_true', ← Bool.not_eq_true, Field.isClosed, Bool.or_eq_true,
      keepsKey_iff, imp_iff_not_or]
  constructor
  · rintro ⟨hrelation, hopen, hmodifier⟩
    refine ⟨?_, hrelation⟩
    rw [isOpen, Bool.and_eq_true, hwritable, Field.isModifiable_iff.mpr hmodifier, Bool.or_true]
    exact ⟨hopen, rfl⟩
  · rintro ⟨hopen, hrelation⟩
    rw [isOpen, Bool.and_eq_true, hwritable, hrelation, Bool.not_true, Bool.false_or,
      Field.isModifiable_iff] at hopen
    exact ⟨hrelation, hopen.1, hopen.2⟩

instance : DecidablePred (side.Touches m) := fun _ => decidable_of_iff _ touches_iff.symm

theorem Takes.touches (h : side.Takes m f) (hrelation : f.isRelation = true) :
    side.Touches m f :=
  touches_iff.mpr ⟨(takes_iff.mp h).1, hrelation⟩

end Side

/-! ### The class of a relation input -/

namespace RelationInput

/-- The class of the related record that an action goes by, in a list if the relation has
several. -/
def typeOf (s : Settings) (f : Field) (kind : DtoKind) : TypeExpr :=
  if f.isList then .array (.classRef (s.className kind f.type))
  else .classRef (s.className kind f.type)

/-- A class that offers what the markers of a relation allow. -/
structure Offers (s : Settings) (dm : Datamodel) (side : Side) (f : Field) (c : ClassDecl) :
    Prop where
  /-- The related record is one of the data model. -/
  declared : f.type ∈ dm.names
  /-- There is a member for each marker, and creating comes before connecting. -/
  names : c.members.map (·.name)
    = (if f.has side.createMarker then ["create"] else [])
      ++ if f.has side.connectMarker then ["connect"] else []
  /-- A record is created by what creates it, and connected by what names it. -/
  types : ∀ x ∈ c.members, (x.name = "create" ∧ x.type = typeOf s f .create) ∨
    (x.name = "connect" ∧ x.type = typeOf s f .connect)
  /-- Where there is a choice, nothing is required. -/
  optional : ∀ x ∈ c.members, x.isOptional = true ↔
    f.has side.createMarker = true ∧ f.has side.connectMarker = true

section

variable {s : Settings} {side : Side} {m : Model} {f : Field}

theorem type_member (isOnly : Bool) (action : String × DtoKind) :
    (member s f isOnly action).type = typeOf s f action.2 := by
  unfold member typeOf plan
  cases hlist : f.isList <;> simp [Settings.member, TypeExpr.ofKind, TypeExpr.layered]

theorem length_actions_ne_one_iff (hactions : actions side f ≠ []) :
    (actions side f).length ≠ 1 ↔
      f.has side.createMarker = true ∧ f.has side.connectMarker = true := by
  unfold actions at hactions ⊢
  cases hcreate : f.has side.createMarker <;> cases hconnect : f.has side.connectMarker <;>
    simp [hcreate, hconnect] at hactions ⊢

/-- **The class of a relation offers what its markers allow.** -/
theorem offers_helper {dm : Datamodel} (htouches : side.Touches m f)
    (hdeclared : f.type ∈ dm.names) : Offers s dm side f (helper s side m f) := by
  have hactions := actions_ne_nil (Field.isModifiable_iff.mpr htouches.modifier)
  refine ⟨hdeclared, ?_, ?_, ?_⟩
  · show ((actions side f).map (member s f _)).map (·.name) = _
    rw [List.map_map]
    show (actions side f).map (·.1) = _
    unfold actions
    rw [List.map_append]
    cases f.has side.createMarker <;> cases f.has side.connectMarker <;> rfl
  · intro x hx
    obtain ⟨action, haction, rfl⟩ := List.mem_map.mp hx
    have hname : (member s f ((actions side f).length == 1) action).name = action.1 := rfl
    have hcases := mem_of_mem_actions haction
    rw [hname, type_member]
    simp only [List.mem_cons, List.not_mem_nil, or_false] at hcases
    rcases hcases with rfl | rfl
    · exact Or.inl ⟨rfl, rfl⟩
    · exact Or.inr ⟨rfl, rfl⟩
  · intro x hx
    obtain ⟨action, -, rfl⟩ := List.mem_map.mp hx
    rw [← length_actions_ne_one_iff hactions]
    show (!((actions side f).length == 1)) = true ↔ _
    rw [Bool.not_eq_true', beq_eq_false_iff_ne]

end

end RelationInput

/-! ### An example -/

namespace Datamodel

/-- Games between teams.  A new game names its home team, and its guests may be new. -/
def game : Model where
  name := "Game"
  fields := [
    { name := "id", kind := .scalar, type := "Int", isRequired := true, isId := true },
    { name := "homeTeam", kind := .object, type := "Team", isRequired := true
      relationName := some "Home"
      documentation := some "@DtoRelationCanConnectOnCreate" },
    { name := "guests", kind := .object, type := "Team", isRequired := true, isList := true
      relationName := some "Guests"
      documentation := some "@DtoRelationCanCreateOnCreate @DtoRelationCanConnectOnCreate" }]

/-- Games, and teams by their number. -/
def league : Datamodel where
  models := [game,
    { name := "Team"
      fields := [
        { name := "id", kind := .scalar, type := "Int", isRequired := true, isId := true }] }]

end Datamodel

/-! ### Mentioned classes -/

/-- The classes of a part that only the documented API mentions: its helper, and what the
members of the helper are of. -/
theorem Part.Shape.mem_extraModels_iff {s : Settings} {p : Part} (h : p.Shape s) {name : String} :
    name ∈ p.extraModels ↔ ∃ c ∈ p.helper?,
      name = c.name ∨ ∃ x ∈ c.members, x.type.className? = some name := by
  cases h with
  | relation plan? helper isExported actions _ hactions _ =>
      constructor
      · intro hname
        refine ⟨_, rfl, ?_⟩
        rcases List.mem_append.mp hname with hname | hname
        · rw [List.map_map] at hname
          obtain ⟨a, ha, rfl⟩ := List.mem_map.mp hname
          exact Or.inr ⟨_, List.mem_map_of_mem ha, hactions a ha⟩
        · exact Or.inl (List.mem_singleton.mp hname)
      · rintro ⟨c, hc, hname⟩
        rw [← Option.mem_some.mp hc] at hname
        rcases hname with rfl | ⟨x, hx, hclass⟩
        · simp
        · obtain ⟨a, ha, rfl⟩ := List.mem_map.mp hx
          rw [hactions a ha, Option.some.injEq] at hclass
          rw [← hclass]
          exact List.mem_append_left _ (List.mem_map_of_mem (List.mem_map_of_mem ha))
  | _ => simp

namespace Dto

variable {s : Settings} {dm : Datamodel} {side : Side} {m : Model} {d : Dto}

theorem IsOf.mem_extraModels_iff {kind : DtoKind} (h : IsOf s dm m kind d) {name : String} :
    name ∈ d.extraModels ↔ ∃ c ∈ d.helpers,
      name = c.name ∨ ∃ x ∈ c.members, x.type.className? = some name := by
  obtain ⟨parts, rfl, hshape, -⟩ := h
  rw [mem_extraModels_ofParts]
  constructor
  · rintro ⟨p, hp, hname⟩
    obtain ⟨c, hc, hspoken⟩ := (hshape p hp).mem_extraModels_iff.mp hname
    exact ⟨c, List.mem_filterMap.mpr ⟨p, hp, hc⟩, hspoken⟩
  · rintro ⟨c, hc, hspoken⟩
    obtain ⟨p, hp, hcp⟩ := List.mem_filterMap.mp hc
    exact ⟨p, hp, (hshape p hp).mem_extraModels_iff.mpr ⟨c, hcp, hspoken⟩⟩

theorem IsOf.nodup_extraModels {kind : DtoKind} (h : IsOf s dm m kind d) :
    d.extraModels.Nodup := by
  obtain ⟨parts, rfl, -⟩ := h
  exact Import.nodup_foldl_addName List.nodup_nil

/-! ### Files -/

theorem Holds.helpers_input (h : d.Holds s m) (hkind : d.kind = side.kind) :
    d.helpers = (m.fields.filter (side.Touches m ·)).map (RelationInput.helper s side m) := by
  have hgives : ∀ f : Field, f.helper? s m side.kind = Input.helper? s side m f := by
    intro f
    cases side <;> rfl
  rw [h.helpers, hkind, ← List.filterMap_eq_map', List.filterMap_filter]
  refine List.filterMap_congr fun f _ => ?_
  rw [hgives, Input.helper?]
  simp only [Side.touches_iff, Bool.and_eq_true, decide_eq_true_eq]

/-- An input that offers what the markers of its relations allow, and mentions that. -/
structure OffersRelations (s : Settings) (dm : Datamodel) (side : Side) (m : Model) (d : Dto) :
    Prop where
  /-- There is a class for each relation that the input may touch, in order. -/
  helpers : List.Forall₂ (RelationInput.Offers s dm side) (m.fields.filter (side.Touches m ·))
    d.helpers
  nodup_extraModels : d.extraModels.Nodup
  /-- The documented API mentions these classes and the classes of their members. -/
  mem_extraModels_iff : ∀ name, name ∈ d.extraModels ↔ ∃ c ∈ d.helpers,
    name = c.name ∨ ∃ x ∈ c.members, x.type.className? = some name

theorem IsAssembled.declares_of_touches {f : Field} (h : IsAssembled s dm m side.kind d)
    (hf : f ∈ m.fields) (htouches : side.Touches m f) : f.type ∈ dm.names := by
  refine Datamodel.declares_iff.mp ((isAssembled_iff.mp h).1 f hf ?_)
  have hactions := RelationInput.actions_ne_nil (Field.isModifiable_iff.mpr htouches.modifier)
  have htargets : f.targets m side.kind = Input.targets side m f := by cases side <;> rfl
  rw [htargets, Input.targets, (Side.touches_iff.mp htouches).1, htouches.relation]
  simpa using hactions

theorem offersRelations_input (h : input s dm side m = .ok d) : d.OffersRelations s dm side m := by
  have hassembled := isAssembled_input h
  refine ⟨?_, hassembled.isOf.nodup_extraModels, fun _ => hassembled.isOf.mem_extraModels_iff⟩
  rw [hassembled.holds.helpers_input hassembled.isOf.kind_eq, List.forall₂_map_right_iff,
    List.forall₂_same]
  intro f hf
  obtain ⟨hf, htouches⟩ := List.mem_filter.mp hf
  have htouches : side.Touches m f := of_decide_eq_true htouches
  exact RelationInput.offers_helper htouches (hassembled.declares_of_touches hf htouches)

/-- What is no input of its model has no relation inputs, and nothing to mention. -/
theorem IsAssembled.helpers_eq_nil {kind : DtoKind} (h : IsAssembled s dm m kind d)
    (hkind : ∀ side : Side, side.kind ≠ kind) : d.helpers = [] ∧ d.extraModels = [] := by
  have hhelpers : d.helpers = [] := by
    rw [h.holds.helpers, h.isOf.kind_eq]
    refine List.filterMap_eq_nil_iff.mpr fun f _ => ?_
    refine Option.eq_none_iff_forall_ne_some.mpr fun c hc => ?_
    obtain ⟨side, hside, -⟩ := Field.helper?_eq_some_iff.mp hc
    exact hkind side hside
  exact ⟨hhelpers, h.isOf.extraModels_eq_nil_iff.mpr hhelpers⟩

theorem isAssembled_connect? (dm : Datamodel) (h : connect? s m = some d) :
    IsAssembled s dm m .connect d := by
  rw [connect?_eq] at h
  split at h
  · rw [← assemble_eq_ok_iff, assemble_connect, Option.some.inj h]
  · cases h

/-- **Inputs offer what the markers of their relations allow, and nothing else has relation
inputs.** -/
theorem offersRelations (s : Settings) (dm : Datamodel) (m : Model) :
    (∀ side d, input s dm side m = .ok d → d.OffersRelations s dm side m) ∧
      ∀ d, connect? s m = some d ∨ plain s dm m = .ok d ∨ entity s dm m = .ok d →
        d.helpers = [] ∧ d.extraModels = [] := by
  refine ⟨fun side d h => offersRelations_input h, ?_⟩
  rintro d (h | h | h)
  · exact (isAssembled_connect? dm h).helpers_eq_nil fun side => by cases side <;> decide
  · exact (assemble_eq_ok_iff.mp (plain_eq ▸ h)).helpers_eq_nil
      fun side => by cases side <;> decide
  · exact (assemble_eq_ok_iff.mp (entity_eq ▸ h)).helpers_eq_nil
      fun side => by cases side <;> decide

/-- A new game offers to connect its home team, and either for its guests.  What names a game
offers nothing. -/
theorem offersRelations_league :
    (∃ d, input {} .league .onCreate Datamodel.game = .ok d ∧
      d.helpers.map (fun c => (c.name, c.members.map (·.name)))
          = [("CreateGameHomeTeamRelationInputDto", ["connect"]),
            ("CreateGameGuestsRelationInputDto", ["create", "connect"])] ∧
        d.extraModels = ["ConnectTeamDto", "CreateGameHomeTeamRelationInputDto",
          "CreateTeamDto", "CreateGameGuestsRelationInputDto"] ∧
          d.OffersRelations {} .league .onCreate Datamodel.game) ∧
      ∃ d, connect? {} Datamodel.game = some d ∧ d.helpers = [] ∧ d.extraModels = [] := by
  have hinput : (input {} .league .onCreate Datamodel.game).toOption.any (fun d =>
      d.helpers.map (fun c => (c.name, c.members.map (·.name)))
          == [("CreateGameHomeTeamRelationInputDto", ["connect"]),
            ("CreateGameGuestsRelationInputDto", ["create", "connect"])] &&
        d.extraModels == ["ConnectTeamDto", "CreateGameHomeTeamRelationInputDto",
          "CreateTeamDto", "CreateGameGuestsRelationInputDto"]) = true := by
    decide +kernel
  have hconnect : (connect? {} Datamodel.game).isSome = true := by decide +kernel
  obtain ⟨hoffers, hnone⟩ := offersRelations {} .league Datamodel.game
  obtain ⟨d, hd, hconcrete⟩ := exists_ok_of_any hinput
  obtain ⟨hhelpers, hmodels⟩ := Bool.and_eq_true_iff.mp hconcrete
  obtain ⟨c, hc⟩ := Option.isSome_iff_exists.mp hconnect
  exact ⟨⟨d, hd, beq_iff_eq.mp hhelpers, beq_iff_eq.mp hmodels, hoffers .onCreate d hd⟩,
    c, hc, hnone c (Or.inl hc)⟩

end Dto

end DtoForge
