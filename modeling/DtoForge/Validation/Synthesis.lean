/-
The validators of a field.

A field has a presence marker, says that it is a list if it is one, and then has what
follows from its type.  What the documentation asks for comes after that and takes the
place of what has the same name.  On a list each validator is asked of each element,
except for those of the whole collection and of the list itself.
-/
import DtoForge.Schema.Descriptor
import DtoForge.Validation.Directive
import DtoForge.Validation.Each

namespace DtoForge.Validators

/-- The validator, asked of each element where the field is a list. -/
def onElements (isList : Bool) (d : Decorator) : Decorator :=
  if isList && !(Catalog.isCollection d.name) then
    { d with argument := some (Each.wrap d.name d.argument) }
  else d

/-- Whether the field has to be there. -/
def presence (d : Descriptor) : Decorator :=
  .bare (if d.isRequired then "IsNotEmpty" else "IsOptional")

/-- What follows from the type.  An embedded object is validated as the class `nested`. -/
def ofType (d : Descriptor) (nested : String) : List Decorator :=
  if d.isStructured then
    [onElements d.isList (.bare "ValidateNested"), ⟨"Type", some ("() => " ++ nested)⟩]
  else
    ((Catalog.ofScalar? d.type).map fun name => onElements d.isList (.bare name)).toList

/-- The validators that a field has without being asked. -/
def derived (d : Descriptor) (nested : String) : List Decorator :=
  presence d :: (if d.isList then [.bare "IsArray"] else []) ++ ofType d nested

/-- The list with a validator at its end, in the place of one with the same name. -/
def supersede (ds : List Decorator) (d : Decorator) : List Decorator :=
  ds.filter (·.name != d.name) ++ [d]

/-- What the documentation asks for, in the order of the catalog. -/
def requested (d : Descriptor) : List Decorator :=
  match d.documentation with
  | none => []
  | some text => (Catalog.names.filterMap (Directive.find? text)).map (onElements d.isList)

/-- The validators of a field, whose embedded object is of the class `nested`. -/
def synthesize (d : Descriptor) (nested : String) : List Decorator :=
  (requested d).foldl supersede (derived d nested)

end DtoForge.Validators
