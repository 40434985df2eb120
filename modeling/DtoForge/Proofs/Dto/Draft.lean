/-
Drafts finish as files put together from parts.

A finished file imports for its decorators what the draft has noted down, and not what its
classes call for, so the two could drift apart.  They do not, since everything that is done to a
draft keeps its notes those of the members in it: a member is noted down as it is taken in, and
the members of a helper are noted down by themselves before the helper is taken in.

What a field does to a draft is therefore told by the part that it contributes.  A draft that
has gone through all fields holds what their parts contribute, with notes on exactly that, and
so it finishes as the file that is put together from the parts.  One statement has no test of
its own: validators are imported from their package whenever one has been noted down.  It is
never empty, because a member that wears validators wears a presence marker.
-/
import Mathlib.Data.List.Sort
import DtoForge.Proofs.Code.Import
import DtoForge.Proofs.Dto.Part
import DtoForge.Proofs.Validation.Synthesis

namespace DtoForge

namespace Draft

/-! ### Notes -/

/-- A draft whose notes tell what the given members wear. -/
structure Notes (d : Draft) (xs : List Member) : Prop where
  nodup : d.validatorNames.Nodup
  validatorNames : ∀ n, n ∈ d.validatorNames ↔ ∃ x ∈ xs, n ∈ x.validators.map (·.name)
  hasShown : d.hasShown = true ↔ ∃ x ∈ xs, x.isHidden = false ∧ x.api.isSome = true
  hasHidden : d.hasHidden = true ↔ ∃ x ∈ xs, x.isHidden = true

variable {d e : Draft} {xs ys : List Member}

/-- Drafts with the same notes tell of the same members, in whatever order these stand. -/
theorem Notes.congr (h : d.Notes xs) (hnames : e.validatorNames = d.validatorNames)
    (hshows : e.hasShown = d.hasShown) (hhides : e.hasHidden = d.hasHidden)
    (hmem : ∀ x, x ∈ xs ↔ x ∈ ys) : e.Notes ys := by
  obtain ⟨hnodup, hvalidators, hshown, hhidden⟩ := h
  simp only [hmem] at hvalidators hshown hhidden
  rw [← hnames] at hnodup hvalidators
  exact ⟨hnodup, hvalidators, hshows ▸ hshown, hhides ▸ hhidden⟩

/-- Noting members down changes the notes alone. -/
theorem foldl_note (d : Draft) (xs : List Member) :
    xs.foldl note d =
      { d with
        validatorNames :=
          (xs.flatMap fun x => x.validators.map (·.name)).foldl Import.addName d.validatorNames
        hasShown := d.hasShown || xs.any fun x => !x.isHidden && x.api.isSome
        hasHidden := d.hasHidden || xs.any (·.isHidden) } := by
  induction xs generalizing d with
  | nil => simp
  | cons x xs ih =>
      rw [List.foldl_cons, ih]
      simp only [note, List.flatMap_cons, List.foldl_append, List.any_cons, Bool.or_assoc]

theorem Notes.foldl_note (h : d.Notes xs) (ys : List Member) :
    (ys.foldl note d).Notes (xs ++ ys) := by
  rw [Draft.foldl_note]
  refine ⟨Import.nodup_foldl_addName h.nodup, ?_, ?_, ?_⟩
  · intro n
    rw [Import.mem_foldl_addName, h.validatorNames]
    simp only [List.mem_flatMap, List.mem_append, or_and_right, exists_or]
  · rw [Bool.or_eq_true, h.hasShown]
    simp only [List.any_eq_true, List.mem_append, or_and_right, exists_or, Bool.and_eq_true,
      Bool.not_eq_true']
  · rw [Bool.or_eq_true, h.hasHidden]
    simp only [List.any_eq_true, List.mem_append, or_and_right, exists_or]

theorem Notes.push (h : d.Notes d.allMembers) (x : Member) :
    (d.push x).Notes (d.push x).allMembers := by
  refine (h.foldl_note [x]).congr rfl rfl rfl fun y => ?_
  simp [Draft.push, note, allMembers, or_comm]

/-- A helper is noted down member by member, and then it is taken in. -/
theorem Notes.addHelper (h : d.Notes d.allMembers) (c : ClassDecl) :
    ((c.members.foldl note d).addHelper c).Notes
      ((c.members.foldl note d).addHelper c).allMembers := by
  refine (h.foldl_note c.members).congr rfl rfl rfl fun x => ?_
  simp [Draft.foldl_note, Draft.addHelper, allMembers]

/-! ### Parts -/

/-- A draft that takes in what a part contributes. -/
def take (s : Settings) (self : Target) (d : Draft) (p : Part) : Draft :=
  let d :=
    { d with
      imports := p.references.foldl (requireTarget s self) d.imports
      extraModels := p.extraModels.foldl Import.addName d.extraModels }
  let d := p.helper?.elim d fun c => (c.members.foldl note d).addHelper c
  p.member?.elim d d.push

section

variable {s : Settings} {self : Target} {p : Part} {parts : List Part}

/-- What is taken in, field by field of the draft. -/
theorem take_eq : d.take s self p =
    { (p.helper?.toList.flatMap (·.members) ++ p.member?.toList).foldl note d with
      members := d.members ++ p.member?.toList
      imports := p.references.foldl (requireTarget s self) d.imports
      helpers := d.helpers ++ p.helper?.toList
      extraModels := p.extraModels.foldl Import.addName d.extraModels } := by
  unfold take
  cases p.helper? <;> cases p.member? <;> simp [push, note, addHelper, foldl_note]

/-- **Taking in a part keeps the notes right.** -/
theorem Notes.take (h : d.Notes d.allMembers) :
    (d.take s self p).Notes (d.take s self p).allMembers := by
  have hstart := h.congr (e := { d with
    imports := p.references.foldl (requireTarget s self) d.imports
    extraModels := p.extraModels.foldl Import.addName d.extraModels }) rfl rfl rfl fun _ => Iff.rfl
  unfold Draft.take
  cases p.helper? with
  | none =>
      cases p.member? with
      | none => exact hstart
      | some x => exact hstart.push x
  | some c =>
      cases p.member? with
      | none => exact hstart.addHelper c
      | some x => exact (hstart.addHelper c).push x

/-- A draft of the output `out` that holds what parts contribute, and notes on that. -/
structure Holds (s : Settings) (out : Target) (d : Draft) (parts : List Part) : Prop where
  members : d.members = parts.filterMap (·.member?)
  helpers : d.helpers = parts.filterMap (·.helper?)
  extraModels : d.extraModels = (parts.flatMap (·.extraModels)).foldl Import.addName []
  imports : d.imports = localImports s out (parts.flatMap (·.references))
  notes : d.Notes d.allMembers

theorem holds_empty : Holds s self {} [] :=
  ⟨rfl, rfl, rfl, rfl, ⟨List.nodup_nil, by simp [allMembers], by simp [allMembers],
    by simp [allMembers]⟩⟩

theorem Holds.take (h : Holds s self d parts) (p : Part) :
    Holds s self (d.take s self p) (parts ++ [p]) := by
  refine ⟨?_, ?_, ?_, ?_, h.notes.take⟩ <;> rw [take_eq]
  · rw [h.members, List.filterMap_append]
    cases hmember : p.member? <;> simp [hmember]
  · rw [h.helpers, List.filterMap_append]
    cases hhelper : p.helper? <;> simp [hhelper]
  · simp [h.extraModels]
  · simp [h.imports, localImports]

/-- **A draft that takes in parts holds what they contribute.** -/
theorem holds_foldl_take (parts : List Part) :
    Holds s self (parts.foldl (Draft.take s self) {}) parts := by
  induction parts using List.reverseRecOn with
  | nil => exact holds_empty
  | append_singleton parts p ih =>
      rw [List.foldl_append]
      exact ih.take p

end

/-! ### Finishing -/

theorem pairwise_mergeSort {names : List String} (h : names.Nodup) :
    (names.mergeSort fun a b => decide (a ≤ b)).Pairwise (· < ·) := by
  have hle := @List.pairwise_mergeSort String (fun a b => decide (a ≤ b))
    (fun a b c hab hbc => decide_eq_true
      (String.le_trans (of_decide_eq_true hab) (of_decide_eq_true hbc)))
    (fun a b => by simpa using String.le_total a b) names
  have hne : (names.mergeSort fun a b => decide (a ≤ b)).Nodup :=
    (List.mergeSort_perm names _).nodup_iff.mpr h
  exact (hle.and hne).imp fun hab => Std.lt_of_le_of_ne (of_decide_eq_true hab.1) hab.2

theorem mergeSort_eq_of_perm {names names' : List String} (hperm : names.Perm names')
    (h : names.Nodup) :
    (names.mergeSort fun a b => decide (a ≤ b)) = names'.mergeSort fun a b => decide (a ≤ b) := by
  have hsorted := (List.mergeSort_perm names fun a b => decide (a ≤ b)).trans
    (hperm.trans (List.mergeSort_perm names' fun a b => decide (a ≤ b)).symm)
  refine hsorted.eq_of_pairwise (fun a b _ _ hab hba => ?_) (pairwise_mergeSort h)
    (pairwise_mergeSort (hperm.nodup_iff.mp h))
  exact absurd hba (String.lt_asymm hab)

theorem Notes.perm_validatorNames (h : d.Notes xs) :
    d.validatorNames.Perm (DtoForge.validatorNames xs) := by
  refine (List.perm_ext_iff_of_nodup h.nodup (Import.nodup_foldl_addName List.nodup_nil)).mpr ?_
  intro n
  rw [h.validatorNames, Import.mem_foldl_addName]
  simp

theorem importOf_of_ne_nil {source : String} {names : List String} (h : names ≠ []) :
    importOf source names = [⟨source, names⟩] :=
  if_neg (by simpa using h)

/-- Whoever wears validators wears one that is not `Type`. -/
def IsMarked (xs : List Member) : Prop :=
  ∀ x ∈ xs, x.validators ≠ [] → ∃ a ∈ x.validators, a.name ≠ "Type"

/-- `Type` is never all that has been noted down, if no member wears it alone. -/
theorem Notes.filter_ne_nil (h : d.Notes xs) (hmarked : IsMarked xs)
    (hne : d.validatorNames ≠ []) : d.validatorNames.filter (· != "Type") ≠ [] := by
  obtain ⟨n, hn⟩ := List.exists_mem_of_ne_nil _ hne
  obtain ⟨x, hx, hworn⟩ := (h.validatorNames n).mp hn
  obtain ⟨a, ha, hname⟩ := hmarked x hx fun hnil => by simp [hnil] at hworn
  have hnoted := (h.validatorNames a.name).mpr ⟨x, hx, List.mem_map_of_mem ha⟩
  exact List.ne_nil_of_mem (List.mem_filter.mpr ⟨hnoted, by simpa using hname⟩)

/-- **The imports of validators are those that the members call for.**  They are made without a
look at what is left when `Type` is taken out, and need none. -/
theorem Notes.validatorImports_eq (h : d.Notes xs) (hmarked : IsMarked xs) :
    d.validatorImports
      = importOf "class-validator"
          (((DtoForge.validatorNames xs).filter (· != "Type")).mergeSort fun a b => decide (a ≤ b))
        ++ importOf "class-transformer" ((DtoForge.validatorNames xs).filter (· == "Type")) := by
  have hperm := h.perm_validatorNames
  have hsort := mergeSort_eq_of_perm (hperm.filter (· != "Type")) (h.nodup.filter _)
  have htype : (DtoForge.validatorNames xs).filter (· == "Type")
      = if d.validatorNames.contains "Type" then ["Type"] else [] := by
    have hmem : d.validatorNames.contains "Type" = decide ("Type" ∈ DtoForge.validatorNames xs) := by
      rw [List.contains_eq_mem, decide_eq_decide, hperm.mem_iff]
    rw [List.filter_beq, (hperm.nodup_iff.mp h.nodup).count, hmem]
    split <;> simp [*]
  rw [← hsort, htype]
  unfold validatorImports
  by_cases hempty : d.validatorNames = []
  · simp [hempty, importOf]
  · have hne : (d.validatorNames.filter (· != "Type")).mergeSort (fun a b => decide (a ≤ b)) ≠ [] :=
      fun hnil => h.filter_ne_nil hmarked hempty
        (List.nil_perm.mp (hnil ▸ List.mergeSort_perm _ fun a b => decide (a ≤ b)))
    rw [if_neg (by simpa using hempty), importOf_of_ne_nil hne]
    cases d.validatorNames.contains "Type" <;> rfl

theorem Notes.documentationNames_eq (h : d.Notes xs) :
    d.documentationNames = DtoForge.documentationNames xs d.extraModels := by
  have hshown : d.hasShown = xs.any fun x => !x.isHidden && x.api.isSome := by
    rw [Bool.eq_iff_iff, h.hasShown]
    simp
  have hhidden : d.hasHidden = xs.any (·.isHidden) := by
    rw [Bool.eq_iff_iff, h.hasHidden]
    simp
  rw [documentationNames, DtoForge.documentationNames, hshown, hhidden]

/-- **A draft that holds what parts contribute finishes as the file put together from them.** -/
theorem Holds.finish_eq {s : Settings} {self : Target} {parts : List Part}
    (h : Holds s self d parts) (hmarked : IsMarked d.allMembers) :
    d.finish self.kind (self.className s) (self.directory s) self.fileName
      = Dto.ofParts s self parts := by
  obtain ⟨hmembers, hhelpers, hmodels, himports, hnotes⟩ := h
  rw [finish, hnotes.validatorImports_eq hmarked, hnotes.documentationNames_eq, Dto.ofParts,
    packageImports, allMembers, hmembers, hhelpers, hmodels, himports]
  simp only [List.append_assoc]

/-- Asking for the class of an output in its directory and its file is asking for the output. -/
theorem require_target (s : Settings) (self t : Target) (d : Draft) :
    d.require (self.directory s) self.fileName (t.directory s) t.fileName (t.className s)
      = { d with imports := requireTarget s self d.imports t } := by
  unfold require requireTarget Target.sharesFile
  by_cases hsame : self.directory s = t.directory s ∧ self.fileName = t.fileName
  · rw [if_pos hsame, if_pos (by simpa using hsame)]
  · rw [if_neg hsame, if_neg (by simpa using hsame)]

theorem push_require (s : Settings) (self t : Target) (x : Member) (d : Draft) :
    (d.require (self.directory s) self.fileName (t.directory s) t.fileName (t.className s)).push x
      = d.take s self (.of s (some x) none [t]) := by
  rw [require_target]
  rfl

end Draft

/-! ### What fields do to a draft -/

section

variable {s : Settings} {dm : Datamodel} {side : Side} {m : Model} {f : Field}

namespace RelationInput

theorem reach_eq (d : Draft) (before : List (String × String)) (a : String × DtoKind) :
    reach s dm side m f (d, before) a = dm.resolve m f >>= fun r => .ok
      ({ d with
          imports := requireTarget s ⟨side.kind, m.name⟩ d.imports ⟨a.2, r.name⟩
          extraModels := Import.addName d.extraModels (s.className a.2 r.name) },
        before ++ [(a.1, s.className a.2 r.name)]) := by
  unfold reach
  refine congrArg (dm.resolve m f >>= ·) (funext fun r => ?_)
  have htarget := Draft.require_target s ⟨side.kind, m.name⟩ ⟨a.2, r.name⟩ d
  exact congrArg (fun d : Draft => Except.ok (d.mention _, _)) htarget

/-- The actions of a relation input look up one and the same type.  If it is found, each asks for
its output and mentions its class. -/
theorem foldlM_reach {actions : List (String × DtoKind)} (hne : actions ≠ []) (d : Draft)
    (before : List (String × String)) :
    actions.foldlM (reach s dm side m f) (d, before)
      = dm.resolve m f >>= fun r => .ok
          ({ d with
              imports := (actions.map fun a => ⟨a.2, r.name⟩).foldl
                (requireTarget s ⟨side.kind, m.name⟩) d.imports
              extraModels := (actions.map fun a => s.className a.2 r.name).foldl
                Import.addName d.extraModels },
            before ++ actions.map fun a => (a.1, s.className a.2 r.name)) := by
  cases hfound : dm.resolve m f with
  | error e =>
      obtain ⟨a, rest, rfl⟩ := List.exists_cons_of_ne_nil hne
      rw [List.foldlM_cons, reach_eq, hfound]
      rfl
  | ok r =>
      clear hne
      induction actions generalizing d before with
      | nil => simp [pure, Except.pure, bind, Except.bind]
      | cons a rest ih =>
          rw [List.foldlM_cons, reach_eq, hfound]
          show rest.foldlM (reach s dm side m f) _ = _
          rw [ih]
          simp [bind, Except.bind]

theorem generate_eq (hactions : actions side f ≠ []) (d : Draft) :
    generate s dm side m d f
      = (dm.checked m f (.of s none (some (helper s side m f))
          ((actions side f).map fun a => ⟨a.2, f.type⟩))).map
        fun p => (d.take s ⟨side.kind, m.name⟩ p, className s side m f) := by
  unfold generate
  rw [foldlM_reach hactions, bind_assoc]
  refine Datamodel.resolve_bind (by simpa [Part.of] using hactions) fun r hr => ?_
  show (if (_ : List (String × String)).isEmpty then _ else Except.ok _) = _
  rw [if_neg (by simpa using hactions), hr]
  refine congrArg (fun d : Draft => Except.ok (d, className s side m f)) ?_
  simp only [Draft.take, Part.of, helper, Option.elim_some, Option.elim_none, Draft.foldl_note,
    Draft.addHelper, Draft.mention, List.foldl_append, List.foldl_cons, List.foldl_nil,
    List.nil_append, List.map_map, List.length_map, Function.comp_def, Target.className]
  rfl

end RelationInput

namespace Input

theorem addRelation_eq (hactions : RelationInput.actions side f ≠ [])
    (hrelation : f.isRelation = true) (d : Draft) :
    addRelation s dm side m d f
      = (dm.checked m f (.of s (if side.isKept m f then some (member s side m f) else none)
          (some (RelationInput.helper s side m f))
          ((RelationInput.actions side f).map fun a => ⟨a.2, f.type⟩))).map
        (d.take s ⟨side.kind, m.name⟩) := by
  unfold addRelation
  rw [RelationInput.generate_eq hactions, map_bind_ok, member, plan, if_pos hrelation]
  refine Datamodel.checked_map_congr rfl ?_
  cases side.isKept m f with
  | false => rfl
  | true => rfl

theorem addComposite_eq (d : Draft) :
    addComposite s dm side m d f
      = (dm.checked m f (.of s (some (s.member
          (plainPlan s side f (s.className (side.compositeKind f) f.type)))) none
            [⟨side.compositeKind f, f.type⟩])).map (d.take s ⟨side.kind, m.name⟩) := by
  refine Datamodel.resolve_bind (by simp [Part.of]) fun r hr => ?_
  rw [← Draft.push_require, ← hr]
  rfl

/-- **A field does to the draft of an input what its part tells.** -/
theorem add_eq (d : Draft) :
    add s dm side m d f = (f.part s dm m side.kind).map (d.take s ⟨side.kind, m.name⟩) := by
  rw [Field.part, Field.given_input]
  unfold add member? helper? targets
  -- The cases are the tests in their order.  A relation has its part whether it is kept or not.
  cases hopen : side.isOpen m f with
  | false => rfl
  | true =>
      cases hrelation : f.isRelation with
      | true => exact addRelation_eq (Side.actions_ne_nil_of_isOpen hopen hrelation) hrelation d
      | false =>
          cases hkept : side.isKept m f with
          | false => rfl
          | true =>
              rw [member, plan, hrelation]
              cases hcomposite : f.isComposite with
              | false => rfl
              | true => exact addComposite_eq d

end Input

namespace Record

variable {kind : DtoKind}

theorem addValue_eq (d : Draft) :
    addValue s dm kind m d f
      = (dm.checked m f (.of s (some (s.member (plan s f))) none (valueTargets f))).map
        (d.take s ⟨kind, m.name⟩) := by
  unfold addValue plan valueTargets
  cases f.isComposite with
  | false => rfl
  | true =>
      refine Datamodel.resolve_bind (by simp [Part.of]) fun r hr => ?_
      rw [if_pos rfl, if_pos rfl, ← Draft.push_require, ← hr]
      rfl

theorem addRelation_eq (d : Draft) :
    addRelation s dm m d f
      = (dm.checked m f (.of s (some (s.member
          (relationPlan s f (s.className .entity f.type)))) none [⟨.entity, f.type⟩])).map
        (d.take s ⟨.entity, m.name⟩) := by
  refine Datamodel.resolve_bind (by simp [Part.of]) fun r hr => ?_
  rw [← Draft.push_require, ← hr]
  rfl

theorem addPlain_eq (d : Draft) :
    addPlain s dm m d f = (f.part s dm m .plain).map (d.take s ⟨.plain, m.name⟩) := by
  unfold addPlain Field.part Field.given Field.member? Field.targets plainMember?
  cases f.has .entityHidden || f.isRelation with
  | true => rfl
  | false => exact addValue_eq d

theorem addEntity_eq (d : Draft) :
    addEntity s dm m d f = (f.part s dm m .entity).map (d.take s ⟨.entity, m.name⟩) := by
  unfold addEntity Field.part Field.given Field.member? Field.targets entityMember?
  cases f.has .entityHidden with
  | true => rfl
  | false =>
      cases f.isRelation with
      | true => exact addRelation_eq d
      | false => exact addValue_eq d

end Record

end

/-! ### Whole drafts -/

theorem Settings.presence_mem_member (s : Settings) (p : Plan)
    (h : (s.member p).validators ≠ []) :
    Validators.presence p.descriptor ∈ (s.member p).validators := by
  cases hvalidates : s.validates with
  | false => exact absurd (by simp [member, hvalidates]) h
  | true =>
      rw [validators_member p hvalidates, Validators.synthesize_eq_cons]
      exact List.mem_cons_self

theorem Validators.name_presence_ne_type (d : Descriptor) : (presence d).name ≠ "Type" := by
  unfold presence
  cases d.isRequired <;> decide

/-- **A draft that takes in what fields give finishes as the file put together from it.** -/
theorem Draft.finish_foldl_take {s : Settings} {self : Target} {parts : List Part}
    (hshape : ∀ p ∈ parts, p.Shape s) :
    (parts.foldl (take s self) {}).finish self.kind (self.className s) (self.directory s)
      self.fileName = Dto.ofParts s self parts := by
  have hholds : Holds s self _ parts := holds_foldl_take parts
  refine hholds.finish_eq fun x hx hworn => ?_
  have hmem : x ∈ (Dto.ofParts s self parts).allMembers := by
    rwa [allMembers, hholds.members, hholds.helpers] at hx
  obtain ⟨p, hp, hxp⟩ := Dto.mem_allMembers_ofParts.mp hmem
  obtain ⟨plan, rfl⟩ := (hshape p hp).exists_plan x hxp
  exact ⟨_, s.presence_mem_member plan hworn, Validators.name_presence_ne_type _⟩

end DtoForge
