/-
What decorations leave alone.

Whether files declare classes or interfaces, whether members wear validators and whether the
output depends on packages decides what members wear, what is imported from packages, and
nothing else, with one exception: decimals and JSON values are types of the client package, and
without dependencies others stand for them.

Two runs whose settings differ in these options are compared step by step.  They fail over the
same field, or their files are alike: one for one of the same class in the same place, with the
same members in the same order, the same helpers, and the same imports from each other.
-/
import DtoForge.Proofs.Dto.Import

namespace DtoForge

/-! ### Types without the client package -/

namespace TypeExpr

/-- The type that stands for a type where there are no dependencies. -/
def withoutPackages : TypeExpr → TypeExpr
  | decimal => number
  | jsonValue | inputJsonValue => object
  | array element => array element.withoutPackages
  | nullable base => nullable base.withoutPackages
  | type => type

/-- A type as it is seen with or without dependencies. -/
def seen (noDependencies : Bool) (type : TypeExpr) : TypeExpr :=
  if noDependencies then type.withoutPackages else type

theorem withoutPackages_layered (base : TypeExpr) (isList isNullable : Bool) :
    (base.layered isList isNullable).withoutPackages
      = base.withoutPackages.layered isList isNullable := by
  cases isList <;> cases isNullable <;> rfl

theorem ofScalar_seen (type : String) (isInput noDependencies : Bool) :
    ofScalar type isInput noDependencies = (ofScalar type isInput false).seen noDependencies := by
  unfold ofScalar
  split <;> cases noDependencies <;> cases isInput <;> rfl

theorem ofKind_seen (kind : FieldKind) (type className : String)
    (isInput noDependencies : Bool) :
    ofKind kind type className isInput noDependencies
      = (ofKind kind type className isInput false).seen noDependencies := by
  cases kind with
  | scalar => exact ofScalar_seen type isInput noDependencies
  | _ => cases noDependencies <;> rfl

/-- A type with its layers is one type, seen with or without dependencies. -/
theorem layered_ofKind_seen (kind : FieldKind) (type className : String)
    (isInput isList isNullable noDependencies : Bool) :
    (ofKind kind type className isInput noDependencies).layered isList isNullable
      = ((ofKind kind type className isInput false).layered isList isNullable).seen
          noDependencies := by
  rw [ofKind_seen]
  cases noDependencies with
  | false => rfl
  | true => exact (withoutPackages_layered _ isList isNullable).symm

end TypeExpr

/-! ### Being alike -/

/-- Members of two runs, of which each has dependencies or not, that differ at most in what
they wear. -/
structure Member.Alike (noDeps noDeps' : Bool) (x y : Member) : Prop where
  name : x.name = y.name
  isOptional : x.isOptional = y.isOptional
  /-- They are of one type, which each run sees in its way. -/
  type : ∃ type : TypeExpr, x.type = type.seen noDeps ∧ y.type = type.seen noDeps'

/-- Declarations whose members are alike, one for one. -/
structure ClassDecl.Alike (noDeps noDeps' : Bool) (c d : ClassDecl) : Prop where
  name : c.name = d.name
  isExported : c.isExported = d.isExported
  members : List.Forall₂ (Member.Alike noDeps noDeps') c.members d.members

/-- Parts that contribute alike members and helpers and refer to the same. -/
structure Part.Alike (noDeps noDeps' : Bool) (p q : Part) : Prop where
  member? : Option.Rel (Member.Alike noDeps noDeps') p.member? q.member?
  helper? : Option.Rel (ClassDecl.Alike noDeps noDeps') p.helper? q.helper?
  references : p.references = q.references
  extraModels : p.extraModels = q.extraModels

/-- Files of one class in one place that differ at most in what is worn, in what is imported
from packages, and in how types are seen. -/
structure Dto.Alike (noDeps noDeps' : Bool) (d e : Dto) : Prop where
  kind : d.kind = e.kind
  className : d.className = e.className
  directory : d.directory = e.directory
  fileName : d.fileName = e.fileName
  members : List.Forall₂ (Member.Alike noDeps noDeps') d.members e.members
  helpers : List.Forall₂ (ClassDecl.Alike noDeps noDeps') d.helpers e.helpers
  extraModels : d.extraModels = e.extraModels
  /-- They import the same from other files. -/
  localImports : d.imports.filter (·.isRelative) = e.imports.filter (·.isRelative)

/-! ### Other decorations -/

namespace Settings

/-- The settings with other options for what is worn. -/
def decorated (s : Settings) (out : OutputType) (validation noDeps : Bool) : Settings :=
  { s with outputType := out, classValidation := validation, noDependencies := noDeps }

variable (s : Settings) (out : OutputType) (validation noDeps : Bool)

@[simp] theorem className_decorated (kind : DtoKind) (name : String) :
    (s.decorated out validation noDeps).className kind name = s.className kind name := by
  cases kind <;> rfl

theorem alike_member (p : Plan) :
    Member.Alike s.noDependencies noDeps (s.member p)
      ((s.decorated out validation noDeps).member p) :=
  ⟨rfl, rfl, _, TypeExpr.layered_ofKind_seen _ _ _ _ _ _ _,
    TypeExpr.layered_ofKind_seen _ _ _ _ _ _ _⟩

end Settings

section

variable {s : Settings} {out : OutputType} {validation noDeps : Bool}

@[simp] theorem Target.className_decorated (t : Target) :
    t.className (s.decorated out validation noDeps) = t.className s :=
  Settings.className_decorated s out validation noDeps t.kind t.name

theorem RelationInput.className_decorated (side : Side) (m : Model) (f : Field) :
    className (s.decorated out validation noDeps) side m f = className s side m f :=
  Settings.className_decorated s out validation noDeps _ _

/-! ### What fields give under other decorations -/

variable {side : Side} {m : Model} {f : Field}

theorem Part.alike_of {member? member?' : Option Member} {helper? helper?' : Option ClassDecl}
    (references : List Target)
    (hmember : Option.Rel (Member.Alike s.noDependencies noDeps) member? member?')
    (hhelper : Option.Rel (ClassDecl.Alike s.noDependencies noDeps) helper? helper?') :
    Part.Alike s.noDependencies noDeps (.of s member? helper? references)
      (.of (s.decorated out validation noDeps) member?' helper?' references) := by
  refine ⟨hmember, hhelper, rfl, ?_⟩
  cases hhelper with
  | none => rfl
  | some hc => simp [Part.of, hc.name]

theorem RelationInput.alike_helper :
    ClassDecl.Alike s.noDependencies noDeps (helper s side m f)
      (helper (s.decorated out validation noDeps) side m f) := by
  refine ⟨(className_decorated side m f).symm, rfl, ?_⟩
  unfold helper
  rw [List.forall₂_map_left_iff, List.forall₂_map_right_iff, List.forall₂_same]
  intro action _
  rw [member, member, Settings.className_decorated]
  exact s.alike_member out validation noDeps _

theorem Input.plan_decorated :
    plan (s.decorated out validation noDeps) side m f = plan s side m f := by
  have hnamer : namer (s.decorated out validation noDeps) side f = namer s side f := by
    cases side <;> rfl
  simp only [plan, plainPlan, RelationInput.className_decorated, Settings.className_decorated,
    hnamer]

theorem Input.alike_member :
    Member.Alike s.noDependencies noDeps (member s side m f)
      (member (s.decorated out validation noDeps) side m f) := by
  rw [member, member, plan_decorated]
  exact s.alike_member out validation noDeps _

theorem Record.plan_decorated : plan (s.decorated out validation noDeps) f = plan s f := by
  cases hcomposite : f.isComposite <;> simp only [plan, hcomposite] <;> rfl

theorem Record.alike_member :
    Member.Alike s.noDependencies noDeps (s.member (plan s f))
      ((s.decorated out validation noDeps).member
        (plan (s.decorated out validation noDeps) f)) := by
  rw [plan_decorated]
  exact s.alike_member out validation noDeps _

/-- What a field gives to an output is alike in both runs. -/
theorem Field.alike_given (kind : DtoKind) :
    Part.Alike s.noDependencies noDeps (f.given s m kind)
      (f.given (s.decorated out validation noDeps) m kind) := by
  refine Part.alike_of (f.targets m kind) ?_ ?_
  · cases kind with
    | connect =>
        simp only [member?, Connect.member?]
        split
        · exact .some (s.alike_member out validation noDeps _)
        · exact .none
    | create | update =>
        simp only [member?, Input.member?]
        split
        · exact .some Input.alike_member
        · exact .none
    | plain =>
        simp only [member?, Record.plainMember?]
        split
        · exact .none
        · exact .some Record.alike_member
    | entity =>
        simp only [member?, Record.entityMember?, Settings.className_decorated]
        split
        · exact .none
        · split
          · exact .some (s.alike_member out validation noDeps _)
          · exact .some Record.alike_member
  · cases kind with
    | create | update =>
        simp only [helper?, Input.helper?]
        split
        · exact .some RelationInput.alike_helper
        · exact .none
    | _ => exact .none

/-- Looking up the type of a field fails in both runs or in none. -/
theorem Field.agree_part (dm : Datamodel) (kind : DtoKind) :
    Agree (Part.Alike s.noDependencies noDeps) (f.part s dm m kind)
      (f.part (s.decorated out validation noDeps) dm m kind) := by
  have hgiven : Part.Alike s.noDependencies noDeps (f.given s m kind)
      (f.given (s.decorated out validation noDeps) m kind) := f.alike_given kind
  rw [part, part, Datamodel.checked, Datamodel.checked, hgiven.references]
  split
  · exact .ok hgiven
  · exact .error _

end

/-! ### Files under other decorations -/

namespace Dto

variable {s : Settings} {out : OutputType} {validation noDeps : Bool}

theorem alike_ofParts (self : Target) {parts parts' : List Part}
    (h : List.Forall₂ (Part.Alike s.noDependencies noDeps) parts parts') :
    Alike s.noDependencies noDeps (ofParts s self parts)
      (ofParts (s.decorated out validation noDeps) self parts') := by
  have hreferences : parts.flatMap (·.references) = parts'.flatMap (·.references) := by
    rw [List.flatMap_def, List.flatMap_def,
      map_of_forall₂ (h.imp fun _ _ hp => hp.references.symm)]
  have hextra : parts.flatMap (·.extraModels) = parts'.flatMap (·.extraModels) := by
    rw [List.flatMap_def, List.flatMap_def,
      map_of_forall₂ (h.imp fun _ _ hp => hp.extraModels.symm)]
  refine ⟨rfl, (self.className_decorated).symm, rfl, rfl, ?_, ?_, ?_, ?_⟩
  · exact List.rel_filterMap (fun _ _ hp => hp.member?) h
  · exact List.rel_filterMap (fun _ _ hp => hp.helper?) h
  · exact congrArg (List.foldl Import.addName []) hextra
  · rw [localImports_ofParts, localImports_ofParts, hreferences]
    rfl

theorem agree_assemble (dm : Datamodel) (m : Model) (kind : DtoKind) :
    Agree (Alike s.noDependencies noDeps) (assemble s dm m kind)
      (assemble (s.decorated out validation noDeps) dm m kind) :=
  (Agree.mapM fun f _ => f.agree_part dm kind).map (alike_ofParts _)

end Dto

/-- **Decorations do not change what is described.**  Two runs that differ in them only fail over
the same, or their files are alike, one for one. -/
theorem agree_all_decorated (s : Settings) (out : OutputType) (validation noDeps : Bool)
    (dm : Datamodel) (models : List Model) :
    Agree (List.Forall₂ (Dto.Alike s.noDependencies noDeps)) (Dto.all s dm models)
      (Dto.all (s.decorated out validation noDeps) dm models) := by
  rw [Dto.all_eq, Dto.all_eq]
  exact Agree.mapM fun o _ => Dto.agree_assemble dm o.1 o.2

end DtoForge
