/-
Lines.

A line ends at a line feed, and a carriage return right before the line feed belongs
to the ending.  A text that ends with a line feed has no further empty line.
-/
import DtoForge.Text.Trim

namespace DtoForge.Text

/-- The line without the carriage return of its ending. -/
def dropReturn : List Char → List Char
  | [] => []
  | ['\r'] => []
  | c :: r => c :: dropReturn r

/-- The lines of a text. -/
def lines (s : List Char) : List (List Char) :=
  let pieces := splitAt '\n' s
  pieces.dropLast.map dropReturn ++ pieces.getLast?.toList.filter (!·.isEmpty)

/-- The text with every line moved in by two spaces and ended by a line feed. -/
def indent (s : List Char) : List Char :=
  (lines s).flatMap fun line => ' ' :: ' ' :: line ++ ['\n']

end DtoForge.Text
