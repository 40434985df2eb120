/-
Members of generated classes.

A plan says how a kind of class sees a field.  The settings then decide the type, the
validators and the documentation of the member, all from the same plan.
-/
import DtoForge.ApiDoc.FieldOptions
import DtoForge.Code.ClassDecl
import DtoForge.Schema.Marker
import DtoForge.Settings.Basic
import DtoForge.Validation.Synthesis

namespace DtoForge

/-! ### Types -/

/-- The type of a scalar.  Inputs take another JSON type than queries return, and without
dependencies there is neither that nor the decimal type. -/
def TypeExpr.ofScalar (type : String) (isInput noDependencies : Bool) : TypeExpr :=
  match type with
  | "String" => .string
  | "Boolean" => .boolean
  | "Int" => .number
  | "Float" => .number
  | "BigInt" => .bigint
  | "DateTime" => .date
  | "Bytes" => .buffer
  | "Decimal" => if noDependencies then .number else .decimal
  | "Json" =>
    if noDependencies then .object else if isInput then .inputJsonValue else .jsonValue
  | _ => .unknown

/-- The type of a field without its layers. -/
def TypeExpr.ofKind (kind : FieldKind) (type className : String)
    (isInput noDependencies : Bool) : TypeExpr :=
  match kind with
  | .enumeration => .enumRef type
  | .object => .classRef className
  | .unsupported => .unknown
  | .scalar => .ofScalar type isInput noDependencies

/-! ### Plans -/

/-- How a kind of class sees a field. -/
structure Plan where
  field : Field
  descriptor : Descriptor
  isOptional : Bool
  isNullable : Bool
  /-- The class of the field's objects. -/
  className : String
  /-- What the validators take for that class, by the type of the descriptor. -/
  namer : String → String
  /-- Whether the class is an input. -/
  isInput : Bool

namespace Settings

/-- Whether fields wear validators. -/
def validates (s : Settings) : Bool :=
  s.classValidation && s.outputType == .classes

/-- Whether the API is documented. -/
def documents (s : Settings) : Bool :=
  !s.noDependencies && s.outputType == .classes

/-- The member of a plan. -/
def member (s : Settings) (p : Plan) : Member where
  name := p.descriptor.name
  type := (TypeExpr.ofKind p.descriptor.kind p.descriptor.type p.className p.isInput
    s.noDependencies).layered p.descriptor.isList p.isNullable
  isOptional := p.isOptional
  validators :=
    if s.validates then
      Validators.synthesize p.descriptor (p.namer p.descriptor.type)
    else []
  api :=
    if s.documents then
      some (ApiProperty.ofField p.field p.descriptor p.isNullable p.className)
    else none
  isHidden := s.documents && p.field.has .apiHidden

end Settings

end DtoForge
