/-
What decorators look at.

A kind of generated class may see a field otherwise than the schema does, required or
not, in a list or not, of another type.  It says so in a copy of the field's properties.
-/
import DtoForge.Schema.Basic

namespace DtoForge

/-- The properties of a field that its decorators follow from. -/
structure Descriptor where
  name : String
  kind : FieldKind
  type : String
  isRequired : Bool
  isList : Bool
  relationName : Option String
  documentation : Option String
  deriving DecidableEq, Repr

/-- The properties of a field as the schema has them. -/
def Field.descriptor (f : Field) : Descriptor where
  name := f.name
  kind := f.kind
  type := f.type
  isRequired := f.isRequired
  isList := f.isList
  relationName := f.relationName
  documentation := f.documentation

/-- Whether the field embeds an object that is no relation. -/
def Descriptor.isStructured (d : Descriptor) : Bool :=
  d.kind == .object && d.relationName.isNone

end DtoForge
