/-
Directives in documentation.

`@Name(arguments)` asks for the validator of that name.  The name has to end where a
word ends.  Arguments follow at once, hold no closing parenthesis and no line feed, and
may be left out.  The leftmost directive of a name counts.
-/
import DtoForge.Character.Word
import DtoForge.Code.Decorator
import DtoForge.Text.Search

namespace DtoForge.Directive

/-- Whether a word ends before the text. -/
def atWordEnd (s : List Char) : Bool :=
  !s.head?.any isWord

/-- The arguments at the front of a text, if they stand in parentheses there. -/
def arguments? : List Char → Option (List Char)
  | '(' :: r =>
    let inner := r.takeWhile fun c => c != ')' && c != '\n'
    if (r.drop inner.length).head? = some ')' then some inner else none
  | _ => none

/-- The validator that a directive asks for, from what follows its name.  Empty arguments
are none. -/
def decorator (name : String) (rest : List Char) : Decorator :=
  ⟨name, ((arguments? rest).filter (!·.isEmpty)).map String.ofList⟩

/-- The validator that the documentation asks for under a name. -/
def find? (documentation : String) (name : String) : Option Decorator :=
  (Text.after? ('@' :: name.toList) atWordEnd documentation.toList).map (decorator name)

end DtoForge.Directive
