/-
What a planned member looks like from outside.

The layers of a type hide neither the class nor the enum under them, and only an object
has a class.  A member is hidden from the documented API only where the API is documented.  Where
there are validators and documentation at all, they follow from the plan and from nothing else.
-/
import DtoForge.Dto.Member
import DtoForge.Proofs.Code.TypeExpr

namespace DtoForge

namespace TypeExpr

@[simp] theorem className?_layered (base : TypeExpr) (isList isNullable : Bool) :
    (base.layered isList isNullable).className? = base.className? := by
  cases isList <;> cases isNullable <;> rfl

theorem className?_ofScalar (type : String) (isInput noDependencies : Bool) :
    (ofScalar type isInput noDependencies).className? = none := by
  unfold ofScalar
  split <;> cases noDependencies <;> cases isInput <;> rfl

theorem className?_ofKind (kind : FieldKind) (type className : String)
    (isInput noDependencies : Bool) :
    (ofKind kind type className isInput noDependencies).className?
      = if kind = .object then some className else none := by
  cases kind with
  | scalar => simp [ofKind, className?_ofScalar]
  | object => rfl
  | enumeration => rfl
  | unsupported => rfl

theorem isBasic_ofKind (kind : FieldKind) (type className : String)
    (isInput noDependencies : Bool) :
    (ofKind kind type className isInput noDependencies).isBasic = true := by
  cases kind with
  | scalar =>
      show (ofScalar type isInput noDependencies).isBasic = true
      unfold ofScalar
      split <;> cases noDependencies <;> cases isInput <;> rfl
  | _ => rfl

end TypeExpr

/-- The documentation options of a member. -/
def Member.options (x : Member) : List ApiProperty :=
  x.api.getD []

namespace Settings

variable (s : Settings) (p : Plan)

theorem className?_member :
    (s.member p).type.className?
      = if p.descriptor.kind = .object then some p.className else none := by
  simp [member, TypeExpr.className?_ofKind]

theorem hasArray_member : (s.member p).type.hasArray = p.descriptor.isList :=
  TypeExpr.hasArray_layered (TypeExpr.isBasic_ofKind _ _ _ _ _) _ _

theorem isNullable_member : (s.member p).type.isNullable = p.isNullable :=
  TypeExpr.isNullable_layered (TypeExpr.isBasic_ofKind _ _ _ _ _) _ _

theorem isSome_api_of_isHidden (h : (s.member p).isHidden = true) :
    (s.member p).api.isSome = true := by
  have hdoc : s.documents = true := by
    simp only [member, Bool.and_eq_true] at h
    exact h.1
  simp [member, hdoc]

theorem validates_eq_true (hout : s.outputType = .classes) (h : s.classValidation = true) :
    s.validates = true := by
  simp [validates, h, hout]

theorem documents_eq_true (hout : s.outputType = .classes) (h : s.noDependencies = false) :
    s.documents = true := by
  simp [documents, h, hout]

variable {s}

theorem isSome_api_member (h : s.documents = true) : (s.member p).api.isSome = true := by
  simp [member, h]

theorem validators_member (h : s.validates = true) :
    (s.member p).validators
      = Validators.synthesize p.descriptor (p.namer p.descriptor.type) := by
  simp [member, h]

theorem options_member (h : s.documents = true) :
    (s.member p).options
      = ApiProperty.ofField p.field p.descriptor p.isNullable p.className := by
  simp [Member.options, member, h]

end Settings

end DtoForge
