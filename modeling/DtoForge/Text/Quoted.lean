/-
Text shown inside double quotes.

The quote and the backslash are escaped, the common control characters have short
escapes, and whatever has no picture of its own is written by its code point.
-/
import DtoForge.Character.Printable

namespace DtoForge.Text

/-- One character inside quotes. -/
def shown (c : Char) : List Char :=
  if c = '\x00' then ['\\', '0']
  else if c = '\t' then ['\\', 't']
  else if c = '\r' then ['\\', 'r']
  else if c = '\n' then ['\\', 'n']
  else if c = '"' || c = '\\' then ['\\', c]
  else if isExtending c || !isPrintable c then
    ['\\', 'u', '\x7b'] ++ Nat.toDigits 16 c.toNat ++ ['\x7d']
  else [c]

/-- A text inside double quotes. -/
def quoted (s : List Char) : List Char :=
  '"' :: s.flatMap shown ++ ['"']

/-- A list of texts inside brackets, each inside double quotes. -/
def quotedList (items : List (List Char)) : List Char :=
  '[' :: [',', ' '].intercalate (items.map quoted) ++ [']']

end DtoForge.Text
