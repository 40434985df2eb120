/-
How values of a configuration become values of settings.

A configuration file on its own is taken at its word: a text is a text and a truth value
a truth value.  Where the environment has a say too every value may come as a text, and so
texts, truth values and numbers stand for each other as far as they can.
-/
import DtoForge.Code.OutputType
import DtoForge.Number.Shortest
import DtoForge.Toml.Basic

namespace DtoForge

/-- What values of a configuration stand for. -/
structure Coercion where
  text? : Toml → Option String
  flag? : Toml → Option Bool
  /-- A word of a fixed choice. -/
  word? : Toml → Option String

namespace Coercion

/-! ### At its word -/

/-- The text of a string. -/
def exactText? : Toml → Option String
  | .string s => some s
  | _ => none

/-- The value of a truth value. -/
def exactFlag? : Toml → Option Bool
  | .boolean b => some b
  | _ => none

/-- A word is a string, or the only key of a table with nothing under it. -/
def exactWord? : Toml → Option String
  | .string s => some s
  | .table [(word, .table [])] => some word
  | .table [(word, .array [])] => some word
  | _ => none

/-- Takes values at their word. -/
def strict : Coercion := ⟨exactText?, exactFlag?, exactWord?⟩

/-! ### As far as it can -/

/-- Numbers are written without exponents, and whole ones without a point. -/
def floatStyle : DecimalStyle := ⟨none, false⟩

/-- The text of a number. -/
def floatText : TomlFloat → String
  | .finite x => String.ofList (floatStyle.text x)
  | .infinite isNegative => if isNegative then "-inf" else "inf"
  | .notANumber => "NaN"

/-- Anything but arrays and tables has a text. -/
def anyText? : Toml → Option String
  | .string s => some s
  | .integer i => some (toString i)
  | .float x => some (floatText x)
  | .boolean b => some (if b then "true" else "false")
  | .datetime text => some text
  | .array _ => none
  | .table _ => none

/-- The texts that stand for truth values, whatever their case. -/
def flagOfText? (s : String) : Option Bool :=
  let word := String.ofList (s.toList.map Char.toLower)
  if word ∈ ["1", "true", "on", "yes"] then some true
  else if word ∈ ["0", "false", "off", "no"] then some false
  else none

/-- Whether a number is not zero. -/
def isNonzero : TomlFloat → Bool
  | .finite x => !x.isZero
  | _ => true

/-- A truth value, a number that is true unless it is zero, or a text that stands for one. -/
def anyFlag? : Toml → Option Bool
  | .boolean b => some b
  | .integer i => some (i != 0)
  | .float x => some (isNonzero x)
  | .string s => flagOfText? s
  | .datetime text => flagOfText? text
  | .array _ => none
  | .table _ => none

/-- A word is a string, or the only key of a table. -/
def anyWord? : Toml → Option String
  | .string s => some s
  | .datetime text => some text
  | .table [(word, _)] => some word
  | _ => none

/-- Takes values for what they can stand for. -/
def lenient : Coercion := ⟨anyText?, anyFlag?, anyWord?⟩

end Coercion

end DtoForge
