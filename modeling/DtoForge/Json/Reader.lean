/-
Reading JSON text.

A reader takes a value from the front of a text and returns what is left.  It fails at
the first fault, and as the wording of a fault is nobody's business here it says no
more than that.  Arrays and objects may stand inside each other 127 deep.
-/
import DtoForge.Json.Basic

namespace DtoForge.Json

/-! ### Blanks and digits -/

/-- The white space of JSON. -/
def isSpace (c : Char) : Bool :=
  c == ' ' || c == '\n' || c == '\t' || c == '\r'

/-- The text from its first character that is not white space. -/
def skip (s : List Char) : List Char :=
  s.dropWhile isSpace

/-- The value of a hexadecimal digit. -/
def hexValue? (c : Char) : Option Nat :=
  if c.isDigit then some (c.toNat - 48)
  else if 'a' ≤ c ∧ c ≤ 'f' then some (c.toNat - 87)
  else if 'A' ≤ c ∧ c ≤ 'F' then some (c.toNat - 55)
  else none

/-! ### Strings -/

/-- Four hexadecimal digits. -/
def hexFour? : List Char → Option (Nat × List Char)
  | a :: b :: c :: d :: r => do
    let a ← hexValue? a
    let b ← hexValue? b
    let c ← hexValue? c
    let d ← hexValue? d
    some (((a * 16 + b) * 16 + c) * 16 + d, r)
  | _ => none

/-- A character written by its code, after `\u`.  A code beyond the first plane is a high
surrogate and a low one, and neither may stand alone. -/
def coded? (s : List Char) : Option (Char × List Char) := do
  let (high, r) ← hexFour? s
  if high < 0xD800 || 0xDFFF < high then some (Char.ofNat high, r)
  else if 0xDC00 ≤ high then none
  else match r with
    | '\\' :: 'u' :: r =>
      let (low, r) ← hexFour? r
      if low < 0xDC00 || 0xDFFF < low then none
      else some (Char.ofNat (0x10000 + (high - 0xD800) * 0x400 + (low - 0xDC00)), r)
    | _ => none

/-- The character of an escape, after the backslash. -/
def escape? : List Char → Option (Char × List Char)
  | '"' :: r => some ('"', r)
  | '\\' :: r => some ('\\', r)
  | '/' :: r => some ('/', r)
  | 'b' :: r => some ('\x08', r)
  | 'f' :: r => some ('\x0c', r)
  | 'n' :: r => some ('\n', r)
  | 'r' :: r => some ('\r', r)
  | 't' :: r => some ('\t', r)
  | 'u' :: r => coded? r
  | _ => none

/-- The characters up to the closing quote, where `done` holds those read already, the last
one first. -/
def stringFrom (done : List Char) (s : List Char) : Option (String × List Char) :=
  match s with
  | [] => none
  | '"' :: r => some (String.ofList done.reverse, r)
  | '\\' :: r =>
    match escape? r with
    | none => none
    | some (c, r') => if r'.length ≤ r.length then stringFrom (c :: done) r' else none
  | c :: r => if c.toNat < 0x20 then none else stringFrom (c :: done) r
termination_by s.length

/-! ### Numbers -/

/-- Digits taken into a number below `2 ^ 64`: the number, how many digits it took, and
the digits from the first that did not fit. -/
def takeDigits (units : Nat) (taken : Nat) : List Char → Nat × Nat × List Char
  | [] => (units, taken, [])
  | c :: r =>
    let next := units * 10 + (c.toNat - 48)
    if next < Nat.pow 2 64 then takeDigits next (taken + 1) r else (units, taken, c :: r)

/-- Digits, of which there has to be one. -/
def digits? (s : List Char) : Option (List Char × List Char) :=
  match s.takeWhile Char.isDigit with
  | [] => none
  | ds => some (ds, s.dropWhile Char.isDigit)

/-- The digits before the point.  A zero stands alone. -/
def whole? : List Char → Option (List Char × List Char)
  | '0' :: r => if r.head?.any Char.isDigit then none else some (['0'], r)
  | s => digits? s

/-- The digits after the point, if there is one. -/
def fraction? : List Char → Option (List Char × List Char)
  | '.' :: r => digits? r
  | s => some ([], s)

/-- The exponent, if there is one. -/
def exponent? (s : List Char) : Option (Option Int × List Char) :=
  match s with
  | c :: r =>
    if c = 'e' || c = 'E' then do
      let (sign, r) : Int × List Char := match r with
        | '+' :: r => (1, r)
        | '-' :: r => (-1, r)
        | r => (1, r)
      let (ds, r) ← digits? r
      some (some (sign * (Nat.ofDigitChars 10 ds 0 : Nat)), r)
    else some (none, s)
  | [] => some (none, [])

/-- The number of the given parts.  Only a text without point and exponent can be an
integer, and it has to fit 64 bits with its sign; minus zero is a double. -/
def assemble (isNegative : Bool) (whole fraction : List Char) (exponent : Option Int) :
    Option JsonNumber :=
  let (units, _, left) := takeDigits 0 0 whole
  if left.isEmpty && fraction.isEmpty && exponent.isNone then
    if isNegative then
      if units = 0 || Nat.pow 2 63 < units then (Binary64.ofRatio true units 1).map .double
      else some (.integer (-units))
    else some (.integer units)
  else
    let (units, taken, _) := takeDigits units 0 fraction
    (Binary64.ofScaled isNegative units
      (left.length - (taken : Int) + exponent.getD 0)).map .double

/-- A number, its sign included. -/
def number? (s : List Char) : Option (JsonNumber × List Char) := do
  let (isNegative, r) := match s with
    | '-' :: r => (true, r)
    | r => (false, r)
  let (whole, r) ← whole? r
  let (fraction, r) ← fraction? r
  let (exponent, r) ← exponent? r
  let n ← assemble isNegative whole fraction exponent
  some (n, r)

/-! ### Arrays and objects -/

/-- Items between commas up to `close`, where `done` holds those read already, the last one
first. -/
def itemsFrom (item? : List Char → Option (α × List Char)) (close : Char) (done : List α)
    (s : List Char) : Option (List α × List Char) :=
  match item? s with
  | none => none
  | some (a, r) =>
    match skip r with
    | [] => none
    | c :: r =>
      if c = close then some ((a :: done).reverse, r)
      else if c = ',' then
        if r.length < s.length then itemsFrom item? close (a :: done) r else none
      else none
termination_by s.length

/-- Items between commas up to `close`, of which there may be none. -/
def items? (item? : List Char → Option (α × List Char)) (close : Char) (s : List Char) :
    Option (List α × List Char) :=
  match skip s with
  | [] => none
  | c :: r => if c = close then some ([], r) else itemsFrom item? close [] (c :: r)

/-- A key, a colon and a value. -/
def keyed? (value? : List Char → Option (Json × List Char)) (s : List Char) :
    Option ((String × Json) × List Char) :=
  match skip s with
  | '"' :: r => do
    let (key, r) ← stringFrom [] r
    match skip r with
    | ':' :: r =>
      let (j, r) ← value? r
      some ((key, j), r)
    | _ => none
  | _ => none

/-! ### Values -/

/-- A value, in which arrays and objects stand at most `depth` deep. -/
def value? (depth : Nat) (s : List Char) : Option (Json × List Char) :=
  match skip s with
  | 'n' :: 'u' :: 'l' :: 'l' :: r => some (.null, r)
  | 't' :: 'r' :: 'u' :: 'e' :: r => some (.bool true, r)
  | 'f' :: 'a' :: 'l' :: 's' :: 'e' :: r => some (.bool false, r)
  | '"' :: r => (stringFrom [] r).map fun (s, r) => (.string s, r)
  | '[' :: r =>
    match depth with
    | 0 => none
    | depth + 1 => (items? (value? depth) ']' r).map fun (items, r) => (.array items, r)
  | '\x7b' :: r =>
    match depth with
    | 0 => none
    | depth + 1 =>
      (items? (keyed? (value? depth)) '\x7d' r).map fun (members, r) => (.object members, r)
  | r => (number? r).map fun (n, r) => (.number n, r)

/-- How deep arrays and objects may stand inside each other. -/
def greatestDepth : Nat := 127

/-- The value at the front of a text, and what follows it. -/
def front? (s : String) : Option (Json × List Char) :=
  value? greatestDepth s.toList

/-- The value of a whole text. -/
def read? (s : String) : Option Json :=
  match front? s with
  | some (j, rest) => if (skip rest).isEmpty then some j else none
  | none => none

end DtoForge.Json
