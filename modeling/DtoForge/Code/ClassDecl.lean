/-
Class and interface declarations.

A declaration stays data until it is printed: its members carry their types, their
decorators and their documentation options.  `decorators` says what is worn, and the
printer writes exactly that.
-/
import DtoForge.ApiDoc.Property
import DtoForge.Code.OutputType
import DtoForge.Code.TypeExpr
import DtoForge.Text.Line

namespace DtoForge

/-- A field of a declaration. -/
structure Member where
  name : String
  type : TypeExpr
  /-- Written as `name?: T`. -/
  isOptional : Bool
  validators : List Decorator
  /-- Absent where the API is not documented. -/
  api : Option (List ApiProperty)
  /-- Left out of the documented API. -/
  isHidden : Bool
  deriving DecidableEq, Repr

namespace Member

/-- The documentation decorator, if the API is documented. -/
def apiDecorator? (m : Member) : Option Decorator :=
  m.api.map fun properties => ApiProperty.decorator properties m.isHidden

/-- What the member wears.  An interface wears nothing. -/
def decorators (out : OutputType) (m : Member) : List Decorator :=
  match out with
  | .classes => m.apiDecorator?.toList ++ m.validators
  | .interfaces => []

/-- The member as it is written, with each decorator on lines of its own. -/
def text (out : OutputType) (m : Member) : String :=
  String.ofList (Text.indent (Decorator.linesText (m.decorators out)).toList)
    ++ "  " ++ m.name ++ (if m.isOptional then "?" else "") ++ ": " ++ m.type.text ++ ";\n"

end Member

/-- A declaration. -/
structure ClassDecl where
  name : String
  members : List Member
  isExported : Bool
  /-- Classes that the documented API mentions only through this one. -/
  extraModels : List String
  deriving DecidableEq, Repr

namespace ClassDecl

/-- What the declaration itself wears. -/
def decorators (out : OutputType) (c : ClassDecl) : List Decorator :=
  match out, c.extraModels with
  | .classes, [] => []
  | .classes, models => [⟨"ApiExtraModels", some (", ".intercalate models)⟩]
  | .interfaces, _ => []

/-- The declaration as it is written. -/
def text (out : OutputType) (c : ClassDecl) : String :=
  Decorator.linesText (c.decorators out)
    ++ (if c.isExported then "export " else "") ++ out.keyword ++ " " ++ c.name ++ " \x7b\n"
    ++ String.join (c.members.map (Member.text out)) ++ "\x7d\n"

end ClassDecl

end DtoForge
