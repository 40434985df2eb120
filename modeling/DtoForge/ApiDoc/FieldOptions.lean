/-
The documentation options of a field.

First the literal default, then what the documentation says, then the type, and last
what is true of the field beyond its type.
-/
import DtoForge.ApiDoc.Literal
import DtoForge.ApiDoc.Property
import DtoForge.ApiDoc.Tag
import DtoForge.Json.Printer
import DtoForge.Schema.Descriptor

namespace DtoForge

namespace ApiProperty

/-- The option for a text, quoted unless it reads as a literal. -/
def literal (name text : String) : ApiProperty :=
  ⟨name, Literal.ofText text⟩

/-! ### Defaults -/

/-- The default value as an expression.  A call of a database function is none, and neither
is any other object. -/
def defaultText? : Json → Option String
  | .string s => some (Literal.ofText s)
  | .number n => some n.text
  | .bool b => some (if b then "true" else "false")
  | .array items => some (Json.array items).text
  | _ => none

/-- The option for the default of a field. -/
def ofDefault (f : Field) : List ApiProperty :=
  if f.hasDefaultValue then
    ((f.defaultValue.bind defaultText?).map fun text => ⟨"default", text⟩).toList
  else []

/-! ### Documentation -/

/-- The options that the documentation gives. -/
def ofDocumentation (documentation : String) : List ApiProperty :=
  DocTag.names.filterMap fun tag =>
    (DocTag.value? documentation tag).map (literal tag)

/-! ### Types -/

/-- The documented type of a scalar, and the format if it has one. -/
def scalarFormat? : String → Option (String × Option String)
  | "String" => some ("string", none)
  | "Boolean" => some ("boolean", none)
  | "Int" => some ("integer", some "int32")
  | "BigInt" => some ("integer", some "int64")
  | "Float" => some ("number", some "float")
  | "Decimal" => some ("number", some "double")
  | "DateTime" => some ("string", some "date-time")
  | "Bytes" => some ("string", some "binary")
  | "Json" => some ("object", none)
  | _ => none

/-- The options for the type of a field, whose objects are of the class `className`. -/
def ofType (d : Descriptor) (className : String) : List ApiProperty :=
  match d.kind with
  | .object => [⟨"type", "() => " ++ className⟩]
  | .enumeration => [⟨"enum", d.type⟩, literal "enumName" d.type]
  | .scalar =>
    match scalarFormat? d.type with
    | some (type, format?) =>
      literal "type" type :: (format?.map (literal "format")).toList
    | none => []
  | .unsupported => []

/-! ### All options -/

/-- An option that is there when something holds. -/
def flag (holds : Bool) (name value : String) : List ApiProperty :=
  if holds then [⟨name, value⟩] else []

/-- The options of a field as `d` describes it.  The default is that of the schema. -/
def ofField (f : Field) (d : Descriptor) (isNullable : Bool) (className : String) :
    List ApiProperty :=
  ofDefault f
    ++ ofDocumentation (d.documentation.getD "")
    ++ ofType d className
    ++ flag d.isList "isArray" "true"
    ++ flag (!d.isRequired) "required" "false"
    ++ flag isNullable "nullable" "true"

end ApiProperty

end DtoForge
