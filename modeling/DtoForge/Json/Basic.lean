/-
JSON values.

An object keeps its members in the order of the text, a key that stands twice
included: whether that matters is for the reader of the value.  A number is an integer
where the text wrote one that fits 64 bits, and a double otherwise.
-/
import DtoForge.Number.Binary64

namespace DtoForge

/-- A number of a JSON text. -/
inductive JsonNumber
  | integer (value : Int)
  | double (value : Binary64)
  deriving DecidableEq, Repr

/-- A JSON value. -/
inductive Json
  | null
  | bool (value : Bool)
  | number (value : JsonNumber)
  | string (value : String)
  | array (items : List Json)
  | object (members : List (String × Json))
  deriving Repr

namespace Json

/-- The value of a truth value. -/
def bool? : Json → Option Bool
  | bool b => some b
  | _ => none

/-- The value of a string. -/
def string? : Json → Option String
  | string s => some s
  | _ => none

/-- The items of an array, if each is accepted. -/
def list? (item? : Json → Option α) : Json → Option (List α)
  | array items => items.mapM item?
  | _ => none

/-- The value, or none where `null` stands for absence. -/
def nullable? (value? : Json → Option α) : Json → Option (Option α)
  | null => some none
  | j => (value? j).map some

/-- The value of the first member with the given key. -/
def member? (key : String) : Json → Option Json
  | object members => members.lookup key
  | _ => none

end Json

end DtoForge
