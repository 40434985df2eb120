/-
TOML values.

A document is a table.  Tables keep their entries in the order of the text, each key
once.
-/
import DtoForge.Number.Binary64

namespace DtoForge

/-- A floating-point number of a TOML text. -/
inductive TomlFloat
  | finite (value : Binary64)
  | infinite (isNegative : Bool)
  | notANumber
  deriving DecidableEq, Repr

/-- A TOML value. -/
inductive Toml
  | string (value : String)
  | integer (value : Int)
  | float (value : TomlFloat)
  | boolean (value : Bool)
  /-- A date, a time, or both, in its usual form. -/
  | datetime (text : String)
  | array (items : List Toml)
  | table (entries : List (String × Toml))
  deriving Repr

namespace Toml

/-! ### Equality -/

mutual

/-- Whether two values are the same. -/
def isSame : Toml → Toml → Bool
  | .string a, .string b => a = b
  | .integer a, .integer b => a = b
  | .float a, .float b => a = b
  | .boolean a, .boolean b => a = b
  | .datetime a, .datetime b => a = b
  | .array a, .array b => areSame a b
  | .table a, .table b => entriesAreSame a b
  | _, _ => false

/-- Whether two lists hold the same items. -/
def areSame : List Toml → List Toml → Bool
  | [], [] => true
  | a :: as, b :: bs => a.isSame b && areSame as bs
  | _, _ => false

/-- Whether two tables have the same entries, in the same order. -/
def entriesAreSame : List (String × Toml) → List (String × Toml) → Bool
  | [], [] => true
  | (k, a) :: as, (l, b) :: bs => k = l && a.isSame b && entriesAreSame as bs
  | _, _ => false

end

mutual

theorem isSame_iff : ∀ a b : Toml, a.isSame b = true ↔ a = b
  | .string _, b | .integer _, b | .float _, b | .boolean _, b | .datetime _, b => by
      cases b <;> simp [isSame]
  | .array as, b => by
      cases b <;> simp [isSame, areSame_iff as]
  | .table as, b => by
      cases b <;> simp [isSame, entriesAreSame_iff as]

theorem areSame_iff : ∀ as bs : List Toml, areSame as bs = true ↔ as = bs
  | [], bs => by cases bs <;> simp [areSame]
  | a :: as, bs => by cases bs <;> simp [areSame, isSame_iff a, areSame_iff as]

theorem entriesAreSame_iff :
    ∀ as bs : List (String × Toml), entriesAreSame as bs = true ↔ as = bs
  | [], bs => by cases bs <;> simp [entriesAreSame]
  | (_, a) :: as, bs => by
      cases bs <;> simp [entriesAreSame, isSame_iff a, entriesAreSame_iff as, Prod.ext_iff]

end

instance : DecidableEq Toml := fun a b =>
  decidable_of_iff (a.isSame b = true) (isSame_iff a b)

/-! ### The size of integers -/

mutual

/-- Whether every integer in a value has 64 bits, the sign among them. -/
def isNarrow : Toml → Bool
  | .integer i => -(Int.pow 2 63) ≤ i && i < Int.pow 2 63
  | .array items => areNarrow items
  | .table entries => entriesAreNarrow entries
  | _ => true

/-- Whether every integer in the items has 64 bits. -/
def areNarrow : List Toml → Bool
  | [] => true
  | item :: rest => item.isNarrow && areNarrow rest

/-- Whether every integer in the entries has 64 bits. -/
def entriesAreNarrow : List (String × Toml) → Bool
  | [] => true
  | (_, v) :: rest => v.isNarrow && entriesAreNarrow rest

end

end Toml

end DtoForge
