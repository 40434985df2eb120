/-
Type expressions of the generated code.

A field's type is a basic type, the name of an enum or of a generated class, or one of
these under array and null layers.  Some basic types live in the `Prisma` namespace of
the client package and some names are enums of that package; the file's imports are
decided from both questions.
-/
namespace DtoForge

/-- The type of a field in the generated code. -/
inductive TypeExpr
  | string
  | number
  | bigint
  | boolean
  | date
  | buffer
  /-- A decimal number of the client package. -/
  | decimal
  /-- A JSON value as queries return it. -/
  | jsonValue
  /-- A JSON value as writes accept it. -/
  | inputJsonValue
  | object
  | unknown
  /-- An enum of the client package. -/
  | enumRef (name : String)
  /-- A generated class or interface. -/
  | classRef (name : String)
  | array (element : TypeExpr)
  | nullable (base : TypeExpr)
  deriving DecidableEq, Repr

namespace TypeExpr

/-- The type as it is written.  A layer is a suffix, whatever it stands on. -/
def text : TypeExpr → String
  | string => "string"
  | number => "number"
  | bigint => "bigint"
  | boolean => "boolean"
  | date => "Date"
  | buffer => "Buffer"
  | decimal => "Prisma.Decimal"
  | jsonValue => "Prisma.JsonValue"
  | inputJsonValue => "Prisma.InputJsonValue"
  | object => "object"
  | unknown => "unknown"
  | enumRef name => name
  | classRef name => name
  | array element => element.text ++ "[]"
  | nullable base => base.text ++ " | null"

/-- Whether the type lives in the `Prisma` namespace. -/
def inPrisma : TypeExpr → Bool
  | decimal | jsonValue | inputJsonValue => true
  | array t | nullable t => t.inPrisma
  | _ => false

/-- The enum under the layers, if the type is one. -/
def enumName? : TypeExpr → Option String
  | enumRef name => some name
  | array t | nullable t => t.enumName?
  | _ => none

/-- The class under the layers, if the type is one. -/
def className? : TypeExpr → Option String
  | classRef name => some name
  | array t | nullable t => t.className?
  | _ => none

/-- The type under an array layer if `isList` and a null layer if `isNullable`. -/
def layered (base : TypeExpr) (isList isNullable : Bool) : TypeExpr :=
  let inner := if isList then array base else base
  if isNullable then nullable inner else inner

end TypeExpr

end DtoForge
