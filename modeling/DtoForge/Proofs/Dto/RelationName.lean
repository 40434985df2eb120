/-
What relation inputs are called.

The class of a relation input is named for the model and the field, one after the other and
each with inner capitals.  What comes behind them makes the name longer than that of the
model, so it never is the name of the class of the file.

Two relations of a model can share the name, because inner capitals take names together that
differ in their case or in what stands between words.  Nothing looks for that.  In ASCII this
is all that is lost, so names with different letters and digits keep classes apart.
Where they are kept apart, a relation that an input takes is of a class that no other
member is of, unless the class of a composite value has its name.
-/
import DtoForge.Proofs.Dto.RelationInput
import DtoForge.Proofs.Text.Letters

namespace DtoForge

/-! ### Names of classes -/

theorem Settings.className_eq_iff {s : Settings} {kind : DtoKind} {a b : String} :
    s.className kind a = s.className kind b ↔ classBase a = classBase b := by
  cases kind <;> simp [className, String.append_left_inj, String.append_right_inj]

namespace RelationInput

/-- What the class of a relation input is named for. -/
def base (m : Model) (f : Field) : String :=
  classBase m.name ++ classBase f.name ++ "RelationInput"

theorem className_eq (s : Settings) (side : Side) (m : Model) (f : Field) :
    className s side m f = s.className side.kind (base m f) := rfl

theorem toList_base (m : Model) (f : Field) :
    (base m f).toList
      = Text.pascal m.name.toList ++ Text.pascal f.name.toList ++ "RelationInput".toList := by
  rw [base, String.toList_append, String.toList_append, classBase, classBase,
    String.toList_ofList, String.toList_ofList]

/-- **The class of a relation input is not the class of its file.** -/
theorem className_ne (s : Settings) (side : Side) (m : Model) (f : Field) :
    className s side m f ≠ s.className side.kind m.name := by
  rw [className_eq, ne_eq, Settings.className_eq_iff]
  intro hbase
  have hpascal : Text.pascal (base m f).toList = Text.pascal m.name.toList :=
    String.ofList_injective hbase
  -- All letters of the base are in the name, and those behind the model are too many.
  have hletters := (Text.letters_sublist_pascal (base m f).toList).length_le
  rw [hpascal, toList_base, Text.letters_append, Text.letters_append, List.length_append,
    List.length_append] at hletters
  have hbehind : (Text.letters "RelationInput".toList).length = 13 := by decide
  omega

theorem letters_base {m : Model} {f : Field} (hm : Text.IsAscii m.name.toList)
    (hf : Text.IsAscii f.name.toList) :
    Text.letters (Text.pascal (base m f).toList)
      = Text.letters m.name.toList ++ Text.letters f.name.toList
        ++ Text.letters "RelationInput".toList := by
  have hmodel := Text.letters_pascal hm
  have hfield := Text.letters_pascal hf
  have hascii : Text.IsAscii (base m f).toList := by
    rw [toList_base]
    exact (hmodel.2.append hfield.2).append (by decide)
  rw [(Text.letters_pascal hascii).1, toList_base, Text.letters_append, Text.letters_append,
    hmodel.1, hfield.1]

/-- Names in ASCII are told apart by their letters and digits. -/
theorem letters_eq_of_className_eq {s : Settings} {side : Side} {m : Model} {f g : Field}
    (hm : Text.IsAscii m.name.toList) (hf : Text.IsAscii f.name.toList)
    (hg : Text.IsAscii g.name.toList) (h : className s side m f = className s side m g) :
    Text.letters f.name.toList = Text.letters g.name.toList := by
  rw [className_eq, className_eq, Settings.className_eq_iff] at h
  have hpascal : Text.pascal (base m f).toList = Text.pascal (base m g).toList :=
    String.ofList_injective h
  have hletters := letters_base hm hf
  rw [hpascal, letters_base hm hg, List.append_cancel_right_eq, List.append_cancel_left_eq]
    at hletters
  exact hletters.symm

end RelationInput

/-! ### Classes of members -/

namespace Input

variable {s : Settings} {side : Side} {m : Model} {f : Field}

theorem type_member_of_isRelation (hrelation : f.isRelation = true) :
    (member s side m f).type = .classRef (RelationInput.className s side m f) := by
  rw [member, plan, if_pos hrelation, relationPlan]
  simp [Settings.member, TypeExpr.ofKind, TypeExpr.layered, Field.descriptor,
    kind_of_isRelation hrelation]

theorem className?_member :
    (member s side m f).type.className?
      = if f.isRelation then some (RelationInput.className s side m f)
        else if f.isComposite then some (s.className (side.compositeKind f) f.type)
        else none := by
  by_cases hrelation : f.isRelation = true
  · rw [type_member_of_isRelation hrelation, if_pos hrelation]
    rfl
  · rw [member, plan, if_neg hrelation, if_neg hrelation]
    by_cases hcomposite : f.isComposite = true
    · rw [if_pos hcomposite, if_pos hcomposite, Settings.className?_member]
      exact if_pos (kind_of_isComposite hcomposite)
    · rw [if_neg hcomposite, if_neg hcomposite, Settings.className?_member]
      exact if_neg (kind_ne_object hrelation hcomposite)

theorem isRelation_eq_false_of_isComposite (hcomposite : f.isComposite = true) :
    f.isRelation = false := by
  simp only [Field.isComposite, Bool.and_eq_true, Option.isNone_iff_eq_none] at hcomposite
  simp [Field.isRelation, hcomposite.2]

/-- Where relation inputs are told apart, no two taken relations are of one class. -/
theorem countP_relation_eq_one
    (hnodup : ((m.fields.filter (side.Touches m ·)).map (RelationInput.className s side m)).Nodup)
    (hf : f ∈ m.fields) (htakes : side.Takes m f) (hrelation : f.isRelation = true) :
    ((m.fields.filter (side.Takes m ·)).filter (·.isRelation)).countP (fun g =>
      (member s side m g).type.className? = some (RelationInput.className s side m f)) = 1 := by
  have hsublist : (((m.fields.filter (side.Takes m ·)).filter (·.isRelation)).map
      (RelationInput.className s side m)).Sublist
        ((m.fields.filter (side.Touches m ·)).map (RelationInput.className s side m)) := by
    rw [List.filter_filter]
    refine (List.monotone_filter_right m.fields fun g hg => ?_).map _
    simp only [Bool.and_eq_true, decide_eq_true_eq] at hg ⊢
    exact hg.2.touches hg.1
  have hmem : RelationInput.className s side m f
      ∈ ((m.fields.filter (side.Takes m ·)).filter (·.isRelation)).map
        (RelationInput.className s side m) := by
    refine List.mem_map_of_mem (List.mem_filter.mpr ⟨List.mem_filter.mpr ⟨hf, ?_⟩, hrelation⟩)
    exact decide_eq_true htakes
  rw [← List.count_eq_one_of_mem (hnodup.sublist hsublist) hmem, List.count, List.countP_map]
  refine List.countP_congr fun g hg => ?_
  rw [className?_member, if_pos (List.mem_filter.mp hg).2]
  simp

/-- So a taken relation shares its class with composite values at most. -/
theorem countP_className?_eq_one_iff
    (hnodup : ((m.fields.filter (side.Touches m ·)).map (RelationInput.className s side m)).Nodup)
    (hf : f ∈ m.fields) (htakes : side.Takes m f) (hrelation : f.isRelation = true) :
    (m.fields.filter (side.Takes m ·)).countP (fun g =>
        (member s side m g).type.className? = some (RelationInput.className s side m f)) = 1 ↔
      ∀ g ∈ m.fields, side.Takes m g → g.isComposite = true →
        s.className (side.compositeKind g) g.type ≠ RelationInput.className s side m f := by
  rw [List.countP_eq_countP_filter_add _ _ (·.isRelation),
    countP_relation_eq_one hnodup hf htakes hrelation, Nat.add_eq_left, List.countP_eq_zero]
  simp only [List.mem_filter, decide_eq_true_eq, Bool.not_eq_true', and_imp]
  refine forall₃_congr fun g _ _ => ?_
  rw [className?_member]
  constructor
  · intro hother hcomposite hclass
    have hrelationg := isRelation_eq_false_of_isComposite hcomposite
    exact hother hrelationg (by simp [hrelationg, hcomposite, hclass])
  · intro hother hrelationg
    by_cases hcomposite : g.isComposite = true
    · simp [hrelationg, hcomposite, hother hcomposite]
    · simp [hrelationg, hcomposite]

end Input

/-! ### Files -/

namespace Dto

variable {s : Settings} {dm : Datamodel} {side : Side} {m : Model} {d : Dto}

/-- An input whose relations are of the classes of their relation inputs. -/
structure NamesRelations (s : Settings) (side : Side) (m : Model) (d : Dto) : Prop where
  /-- No relation input is called like the class of the file. -/
  own : ∀ c ∈ d.helpers, c.name ≠ d.className
  /-- The member of a relation that the input takes is of the class that is made for it, with
  no layer around it. -/
  typed : List.Forall₂ (fun f x => x.name = f.name ∧ (f.isRelation = true →
      ∃ c ∈ d.helpers, c.name = RelationInput.className s side m f ∧ x.type = .classRef c.name))
    (m.fields.filter (side.Takes m ·)) d.members
  /-- Relation inputs are told apart unless inner capitals take together what they are
  named for. -/
  nodup_iff : (d.helpers.map (·.name)).Nodup ↔
    (m.fields.filter (side.Touches m ·)).Pairwise fun f g =>
      classBase (RelationInput.base m f) ≠ classBase (RelationInput.base m g)
  /-- In ASCII it is enough that the letters and digits of their fields differ, case aside. -/
  nodup_of_letters :
    (∀ name ∈ m.name :: (m.fields.filter (side.Touches m ·)).map (·.name),
      Text.IsAscii name.toList) →
    (m.fields.filter (side.Touches m ·)).Pairwise (fun f g =>
      Text.letters f.name.toList ≠ Text.letters g.name.toList) →
    (d.helpers.map (·.name)).Nodup
  /-- Where they are told apart, a relation that the input takes is alone in being of its
  class, unless the class of a composite value has the same name. -/
  once : (d.helpers.map (·.name)).Nodup →
    ∀ f ∈ m.fields, side.Takes m f → f.isRelation = true →
      (d.members.countP (·.type.className? = some (RelationInput.className s side m f)) = 1 ↔
        ∀ g ∈ m.fields, side.Takes m g → g.isComposite = true →
          s.className (side.compositeKind g) g.type ≠ RelationInput.className s side m f)

theorem Holds.names_helpers_input (h : d.Holds s m) (hkind : d.kind = side.kind) :
    d.helpers.map (·.name)
      = (m.fields.filter (side.Touches m ·)).map (RelationInput.className s side m) := by
  rw [h.helpers_input hkind, List.map_map]
  rfl

/-- **Relation inputs have names of their own, and taken relations are of their classes.** -/
theorem namesRelations_input (h : input s dm side m = .ok d) : d.NamesRelations s side m := by
  have hassembled := isAssembled_input h
  have hkind := hassembled.isOf.kind_eq
  have hholds := hassembled.holds
  have hhelper : ∀ f ∈ m.fields, side.Touches m f →
      RelationInput.helper s side m f ∈ d.helpers := by
    intro f hf htouches
    rw [hholds.helpers_input hkind]
    exact List.mem_map_of_mem (List.mem_filter.mpr ⟨hf, decide_eq_true htouches⟩)
  refine ⟨?_, ?_, ?_, ?_, ?_⟩
  · intro c hc
    rw [hholds.helpers_input hkind] at hc
    obtain ⟨f, -, rfl⟩ := List.mem_map.mp hc
    rw [hholds.className, hkind]
    exact RelationInput.className_ne s side m f
  · rw [hholds.members_input hkind, List.forall₂_map_right_iff, List.forall₂_same]
    intro f hf
    obtain ⟨hf, htakes⟩ := List.mem_filter.mp hf
    have htakes : side.Takes m f := of_decide_eq_true htakes
    refine ⟨(Input.shows_member s side m f).name, fun hrelation => ?_⟩
    exact ⟨_, hhelper f hf (htakes.touches hrelation), rfl,
      Input.type_member_of_isRelation hrelation⟩
  · rw [hholds.names_helpers_input hkind, List.Nodup, List.pairwise_map]
    simp only [RelationInput.className_eq, ne_eq, Settings.className_eq_iff]
  · intro hascii hletters
    rw [hholds.names_helpers_input hkind, List.Nodup, List.pairwise_map]
    have hm := hascii m.name List.mem_cons_self
    have hfield : ∀ f ∈ m.fields.filter (side.Touches m ·), Text.IsAscii f.name.toList :=
      fun f hf => hascii f.name (List.mem_cons_of_mem _ (List.mem_map_of_mem hf))
    refine hletters.imp_of_mem fun hf hg hne hname => hne ?_
    exact RelationInput.letters_eq_of_className_eq hm (hfield _ hf) (hfield _ hg) hname
  · intro hnodup f hf htakes hrelation
    rw [hholds.names_helpers_input hkind] at hnodup
    rw [hholds.members_input hkind, List.countP_map]
    exact Input.countP_className?_eq_one_iff hnodup hf htakes hrelation

/-- The relation inputs of a new game are its own and differ, and each is for one member. -/
theorem namesRelations_league :
    ∃ d, input {} .league .onCreate Datamodel.game = .ok d ∧
      d.NamesRelations {} .onCreate Datamodel.game ∧
        (d.helpers.map (·.name)).Nodup ∧ d.members.map (·.type.className?)
          = [none, some "CreateGameHomeTeamRelationInputDto",
            some "CreateGameGuestsRelationInputDto"] := by
  have hok : (input {} .league .onCreate Datamodel.game).toOption.any (fun d =>
      d.members.map (·.type.className?) == [none, some "CreateGameHomeTeamRelationInputDto",
        some "CreateGameGuestsRelationInputDto"]) = true := by
    decide +kernel
  obtain ⟨d, hd, hclasses⟩ := exists_ok_of_any hok
  have hnames := namesRelations_input hd
  exact ⟨d, hd, hnames, hnames.nodup_of_letters (by decide +kernel) (by decide +kernel),
    beq_iff_eq.mp hclasses⟩

end Dto

namespace Datamodel

/-- Games that name a team twice, in two spellings. -/
def rematch : Model where
  name := "Game"
  fields := [
    { name := "home_team", kind := .object, type := "Team", isRequired := true
      relationName := some "Home"
      documentation := some "@DtoRelationCanConnectOnCreate" },
    { name := "homeTeam", kind := .object, type := "Team", isRequired := true
      relationName := some "Return"
      documentation := some "@DtoRelationCanConnectOnCreate" }]

/-- These games, and teams by their number. -/
def rematches : Datamodel where
  models := [rematch,
    { name := "Team"
      fields := [
        { name := "id", kind := .scalar, type := "Int", isRequired := true, isId := true }] }]

end Datamodel

/-- Both spellings come to one class: it stands in the file twice, and two members are of it. -/
theorem Dto.not_nodup_names_rematch :
    (Datamodel.rematch.fields.map (·.name)).Nodup ∧
      ∃ d, input {} .rematches .onCreate Datamodel.rematch = .ok d ∧
        d.helpers.map (·.name)
          = ["CreateGameHomeTeamRelationInputDto", "CreateGameHomeTeamRelationInputDto"] ∧
        ¬ (d.helpers.map (·.name)).Nodup ∧
        d.members.countP (·.type.className? = some "CreateGameHomeTeamRelationInputDto") = 2 := by
  refine ⟨by decide, ?_⟩
  have hok : (input {} .rematches .onCreate Datamodel.rematch).toOption.any
      (fun d => d.helpers.map (·.name)
          == ["CreateGameHomeTeamRelationInputDto", "CreateGameHomeTeamRelationInputDto"] &&
        d.members.countP (·.type.className? = some "CreateGameHomeTeamRelationInputDto") == 2)
      = true := by
    decide +kernel
  obtain ⟨d, hd, hconcrete⟩ := exists_ok_of_any hok
  obtain ⟨hhelpers, hmembers⟩ := Bool.and_eq_true_iff.mp hconcrete
  have hhelpers := beq_iff_eq.mp hhelpers
  exact ⟨d, hd, hhelpers, by rw [hhelpers]; decide, beq_iff_eq.mp hmembers⟩

end DtoForge
