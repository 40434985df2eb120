/-
Options of the API documentation decorator.

The decorator of a field takes an object of options.  A hidden field wears another
decorator, which takes none.
-/
import DtoForge.Code.Decorator

namespace DtoForge

/-- One option, `name: value`.  The value is an expression, quoted already where it has
to be. -/
structure ApiProperty where
  name : String
  value : String
  deriving DecidableEq, Repr

namespace ApiProperty

/-- The option as a line of the object. -/
def text (p : ApiProperty) : String :=
  "  " ++ p.name ++ ": " ++ p.value ++ ",\n"

/-- The decorator of a field with the given options. -/
def decorator (properties : List ApiProperty) (isHidden : Bool) : Decorator :=
  if isHidden then .bare "ApiHideProperty"
  else if properties.isEmpty then .bare "ApiProperty"
  else ⟨"ApiProperty", some ("\x7b\n" ++ String.join (properties.map text) ++ "\x7d")⟩

end ApiProperty

end DtoForge
