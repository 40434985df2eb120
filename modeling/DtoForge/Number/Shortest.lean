/-
The text of a double.

The digits are the fewest that read back as the same double, and of several such
texts the one nearest to the number.  How the digits are laid out is for the format that
writes them, and a `DecimalStyle` says it.
-/
import DtoForge.Number.Binary64

namespace DtoForge

/-- The digits of a positive number and where the point stands: the number is
`0.digits * 10 ^ point`. -/
structure DecimalDigits where
  digits : List Char
  point : Int
  deriving DecidableEq, Repr

namespace Binary64

/-! ### The fewest digits -/

/-- How many decimal digits a number has.  Zero has none. -/
def digitCount (n : Nat) : Nat :=
  if n = 0 then 0 else (Nat.toDigits 10 n).length

/-- The least power of ten above the size of the number. -/
def decade (x : Binary64) : Int :=
  if x.num ≥ x.den then digitCount (x.num / x.den)
  else 1 - Int.ofNat (digitCount ((x.den + x.num - 1) / x.num - 1))

/-- Whether `n * 10 ^ k` rounds to the number.  The ends of the interval of numbers that do
belong to it when the mantissa is even.  Below a power of two the interval is narrower. -/
def readsBack (x : Binary64) (n : Nat) (k : Int) : Bool :=
  let value := 4 * (n * Nat.pow 10 k.toNat) * Nat.pow 2 (-x.exponent).toNat
  let unit := Nat.pow 10 (-k).toNat * Nat.pow 2 x.exponent.toNat
  let below := if x.mantissa == hidden && x.exponent > leastExponent then 1 else 2
  let low := (4 * x.mantissa - below) * unit
  let high := (4 * x.mantissa + 2) * unit
  if x.mantissa % 2 == 0 then low ≤ value && value ≤ high else low < value && value < high

/-- Of the two multiples of `10 ^ k` around the number, the one that reads back; of two
such the nearer, a tie to the even one. -/
def candidate? (x : Binary64) (k : Int) : Option Nat :=
  let num := x.num * Nat.pow 10 (-k).toNat
  let den := x.den * Nat.pow 10 k.toNat
  let n := num / den
  match x.readsBack n k, x.readsBack (n + 1) k with
  | true, true => some (roundDiv num den)
  | true, false => some n
  | false, true => some (n + 1)
  | false, false => none

/-- Tries ever finer grids, `fuel` of them, the first of which has `count` digits. -/
def shortestFrom (x : Binary64) (decade : Int) (count : Nat) : Nat → Nat × Int
  | 0 => (x.num / x.den, 0)
  | fuel + 1 =>
    match x.candidate? (decade - count) with
    | some n => (n, decade - count)
    | none => shortestFrom x decade (count + 1) fuel

/-- The fewest digits that read back.  Seventeen always do. -/
def shortest (x : Binary64) : DecimalDigits :=
  let (n, k) := x.shortestFrom x.decade 1 17
  let digits := Nat.toDigits 10 n
  let kept := (digits.reverse.dropWhile (· == '0')).reverse
  ⟨kept, Int.ofNat digits.length + k⟩

end Binary64

/-! ### Layout -/

/-- How a format lays the digits of a number out. -/
structure DecimalStyle where
  /-- The first and the last place of the point that are written without an exponent, or
  none where no number has an exponent. -/
  plain : Option (Int × Int)
  /-- Whether a whole number keeps `.0`. -/
  keepsPoint : Bool

namespace DecimalStyle

/-- The digits with the point among them. -/
def positional (style : DecimalStyle) (d : DecimalDigits) : List Char :=
  let count : Int := d.digits.length
  if d.point ≤ 0 then
    '0' :: '.' :: List.replicate (-d.point).toNat '0' ++ d.digits
  else if d.point < count then
    d.digits.take d.point.toNat ++ '.' :: d.digits.drop d.point.toNat
  else
    d.digits ++ List.replicate (d.point - count).toNat '0'
      ++ (if style.keepsPoint then ['.', '0'] else [])

/-- The digits with the point after the first, and the power of ten with its sign. -/
def scientific (d : DecimalDigits) : List Char :=
  let power := d.point - 1
  let mantissa := match d.digits with
    | [] => []
    | [c] => [c]
    | c :: r => c :: '.' :: r
  mantissa ++ 'e' :: (if power < 0 then '-' else '+') :: Nat.toDigits 10 power.natAbs

/-- The text of a double. -/
def text (style : DecimalStyle) (x : Binary64) : List Char :=
  let body :=
    if x.isZero then (if style.keepsPoint then ['0', '.', '0'] else ['0'])
    else
      let d := x.shortest
      match style.plain with
      | none => style.positional d
      | some (first, last) =>
        if first ≤ d.point && d.point ≤ last then style.positional d else scientific d
  if x.isNegative then '-' :: body else body

end DecimalStyle

end DtoForge
