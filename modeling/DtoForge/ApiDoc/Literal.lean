/-
Values of documentation options.

A value is written as it is where it reads as a truth value or starts like a number or
an array, and as a quoted string otherwise.  An empty value stays empty.
-/
namespace DtoForge.Literal

/-- Whether a value is written as it is. -/
def isBare (s : List Char) : Bool :=
  s == "true".toList || s == "false".toList ||
    s.head?.all fun c => c.isDigit || c == '['

/-- The text with a backslash before each single quote. -/
def escapeQuotes (s : List Char) : List Char :=
  s.flatMap fun c => if c = '\'' then ['\\', '\''] else [c]

/-- The value as it is written, on characters. -/
def encode (s : List Char) : List Char :=
  if isBare s then s else '\'' :: escapeQuotes s ++ ['\'']

/-- The value as it is written. -/
def ofText (s : String) : String :=
  String.ofList (encode s.toList)

end DtoForge.Literal
