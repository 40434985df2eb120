/-
The compact text of a JSON value.

There is no white space.  The members of an object are ordered by their keys, and of
members with the same key the last one counts.
-/
import DtoForge.Json.Basic
import DtoForge.Number.Shortest

namespace DtoForge

/-! ### Strings -/

namespace Json

/-- One character of a string.  Quotes, backslashes and control characters are escaped. -/
def escaped (c : Char) : List Char :=
  if c = '"' || c = '\\' then ['\\', c]
  else if c = '\x08' then ['\\', 'b']
  else if c = '\t' then ['\\', 't']
  else if c = '\n' then ['\\', 'n']
  else if c = '\x0c' then ['\\', 'f']
  else if c = '\r' then ['\\', 'r']
  else if c.toNat < 0x10 then ['\\', 'u', '0', '0', '0'] ++ Nat.toDigits 16 c.toNat
  else if c.toNat < 0x20 then ['\\', 'u', '0', '0'] ++ Nat.toDigits 16 c.toNat
  else [c]

/-- A string inside its quotes. -/
def stringText (s : String) : String :=
  String.ofList ('"' :: s.toList.flatMap escaped ++ ['"'])

end Json

/-! ### Numbers -/

namespace JsonNumber

/-- A double has an exponent below `0.00001` and from `1e16` on, and a whole one keeps its
point. -/
def style : DecimalStyle := ⟨some (-4, 16), true⟩

/-- The number as it is written. -/
def text : JsonNumber → String
  | integer i => toString i
  | double x => String.ofList (style.text x)

end JsonNumber

/-! ### Values -/

namespace Json

/-- Puts a member among members ordered by key, in the place of one with the same key. -/
def putMember (key text : String) : List (String × String) → List (String × String)
  | [] => [(key, text)]
  | (k, t) :: rest =>
    if key < k then (key, text) :: (k, t) :: rest
    else if key = k then (key, text) :: rest
    else (k, t) :: putMember key text rest

/-- Members in the order of their keys, the last of each key. -/
def ordered (members : List (String × String)) : List (String × String) :=
  members.foldl (fun done m => putMember m.1 m.2 done) []

mutual

/-- The value as it is written. -/
def text : Json → String
  | null => "null"
  | bool b => if b then "true" else "false"
  | number n => n.text
  | string s => stringText s
  | array items => "[" ++ ",".intercalate (itemTexts items) ++ "]"
  | object members =>
    "\x7b" ++ ",".intercalate ((ordered (memberTexts members)).map fun m =>
      stringText m.1 ++ ":" ++ m.2) ++ "\x7d"

/-- The items as they are written. -/
def itemTexts : List Json → List String
  | [] => []
  | j :: rest => j.text :: itemTexts rest

/-- The members' keys, and their values as they are written. -/
def memberTexts : List (String × Json) → List (String × String)
  | [] => []
  | (k, j) :: rest => (k, j.text) :: memberTexts rest

end

end Json

end DtoForge
