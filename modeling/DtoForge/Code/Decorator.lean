/-
Decorators of the generated code.

A decorator is kept as its name and the text of its arguments until the file is
printed, so that what a class wears can be asked without reading it back.
-/
namespace DtoForge

/-- A decorator call `@name(argument)`.  A call without arguments has none. -/
structure Decorator where
  name : String
  argument : Option String
  deriving DecidableEq, Repr

namespace Decorator

/-- A decorator without arguments. -/
def bare (name : String) : Decorator :=
  ⟨name, none⟩

/-- The call as it is written. -/
def text (d : Decorator) : String :=
  "@" ++ d.name ++ "(" ++ d.argument.getD "" ++ ")"

/-- The calls as they are written, one on each line. -/
def linesText (ds : List Decorator) : String :=
  String.join (ds.map fun d => d.text ++ "\n")

end Decorator

end DtoForge
