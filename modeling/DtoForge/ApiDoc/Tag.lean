/-
Documentation tags.

`@tag value` gives an option of the documented API its value.  White space of any kind
separates the two, line feeds included, and the value runs to the end of the line on
which it starts.  The leftmost tag that white space follows counts, and it gives nothing
if its value is empty.
-/
import DtoForge.Character.Blank
import DtoForge.Text.Search
import DtoForge.Text.Trim

namespace DtoForge.DocTag

/-- The tags that become options, in the order of the options. -/
def names : List String :=
  ["description", "minimum", "maximum", "exclusiveMinimum", "exclusiveMaximum", "minLength",
    "maxLength", "minItems", "maxItems", "example"]

/-- The value at the front of what follows a tag. -/
def valueAfter (rest : List Char) : List Char :=
  Text.trim ((rest.dropWhile isBlank).takeWhile (· != '\n'))

/-- The value of a tag in a documentation. -/
def value? (documentation : String) (tag : String) : Option String :=
  (Text.after? ('@' :: tag.toList) (·.head?.any isBlank) documentation.toList).bind fun rest =>
    let value := valueAfter rest
    if value.isEmpty then none else some (String.ofList value)

end DtoForge.DocTag
