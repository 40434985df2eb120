/-
The two forms of generated declarations.
-/
namespace DtoForge

/-- Whether files declare classes, which can wear decorators, or bare interfaces. -/
inductive OutputType
  | classes
  | interfaces
  deriving DecidableEq, Repr

namespace OutputType

/-- The keyword that opens a declaration. -/
def keyword : OutputType → String
  | classes => "class"
  | interfaces => "interface"

/-- The form with the given keyword. -/
def ofKeyword? (word : String) : Option OutputType :=
  if word = "class" then some classes
  else if word = "interface" then some interfaces
  else none

end OutputType

end DtoForge
