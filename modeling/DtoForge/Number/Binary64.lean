/-
Double-precision numbers.

A finite double is a sign, a mantissa below `2 ^ 53` and a power of two.  Every
operation takes the exact result as a quotient of natural numbers and rounds it
to the nearest double, a tie to the even mantissa.  Nothing here is a floating-point
operation of the machine, so all of it can be computed in a proof.
-/
namespace DtoForge

/-- The number `± mantissa * 2 ^ exponent`. -/
structure Binary64 where
  isNegative : Bool
  mantissa : Nat
  exponent : Int
  deriving DecidableEq, Repr

namespace Binary64

/-- The exponent of the numbers next to zero. -/
def leastExponent : Int := -1074

/-- The exponent of the largest numbers. -/
def greatestExponent : Int := 971

/-- The mantissas of normal numbers start here and end at its double. -/
def hidden : Nat := Nat.pow 2 52

/-! ### Rounding -/

/-- The integer nearest to `num / den`, a tie to the even one. -/
def roundDiv (num den : Nat) : Nat :=
  let q := num / den
  let r := num % den
  if 2 * r > den || (2 * r == den && q % 2 == 1) then q + 1 else q

/-- The power of two whose multiples are the doubles around `num / den`. -/
def gridExponent (num den : Nat) : Int :=
  let l : Int := Int.ofNat num.log2 - Int.ofNat den.log2
  let e := if num * Nat.pow 2 (-l).toNat ≥ den * Nat.pow 2 l.toNat then l - 52 else l - 53
  max e leastExponent

/-- The double nearest to `num / den`, or none if it would be infinite. -/
def ofRatio (isNegative : Bool) (num den : Nat) : Option Binary64 :=
  if num = 0 then some ⟨isNegative, 0, leastExponent⟩
  else
    let e := gridExponent num den
    let m := roundDiv (num * Nat.pow 2 (-e).toNat) (den * Nat.pow 2 e.toNat)
    let (m, e) := if m = 2 * hidden then (hidden, e + 1) else (m, e)
    if e > greatestExponent then none else some ⟨isNegative, m, e⟩

/-! ### The value as a quotient -/

/-- The numerator of the size of the number. -/
def num (x : Binary64) : Nat := x.mantissa * Nat.pow 2 x.exponent.toNat

/-- The denominator of the size of the number. -/
def den (x : Binary64) : Nat := Nat.pow 2 (-x.exponent).toNat

/-- Whether the number is a zero of either sign. -/
def isZero (x : Binary64) : Bool := x.mantissa == 0

/-! ### Arithmetic -/

/-- The rounded product with a power of ten that is itself a rounded double. -/
def timesTen (x : Binary64) (n : Nat) : Option Binary64 := do
  let power ← ofRatio false (Nat.pow 10 n) 1
  ofRatio x.isNegative (x.num * power.num) (x.den * power.den)

/-- The rounded quotient by a power of ten that is itself a rounded double. -/
def overTen (x : Binary64) (n : Nat) : Option Binary64 := do
  let power ← ofRatio false (Nat.pow 10 n) 1
  ofRatio x.isNegative (x.num * power.den) (x.den * power.num)

/-- The greatest power of ten that is a double. -/
def greatestTen : Nat := 308

/-- Divides by a power of ten of any size, the greatest double at a time. -/
def shrink (x : Binary64) (n : Nat) : Option Binary64 :=
  if n ≤ greatestTen then x.overTen n
  else if x.isZero then some x
  else do
    let y ← x.overTen greatestTen
    y.shrink (n - greatestTen)
termination_by n
decreasing_by simp only [greatestTen] at *; omega

/-- The number `units * 10 ^ exponent`, computed from the double nearest to `units`.  The
two roundings may leave the last bit off by one.  None stands for overflow. -/
def ofScaled (isNegative : Bool) (units : Nat) (exponent : Int) : Option Binary64 := do
  let x ← ofRatio isNegative units 1
  if exponent < 0 then x.shrink (-exponent).toNat
  else if x.isZero then some x
  else if exponent.toNat ≤ greatestTen then x.timesTen exponent.toNat
  else none

/-- The double nearest to `units * 10 ^ exponent`.  None stands for overflow. -/
def ofDecimal (isNegative : Bool) (units : Nat) (exponent : Int) : Option Binary64 :=
  if units = 0 then ofRatio isNegative 0 1
  else if exponent > 400 then none
  else if exponent + units.log2 < -1200 then ofRatio isNegative 0 1
  else ofRatio isNegative (units * Nat.pow 10 exponent.toNat) (Nat.pow 10 (-exponent).toNat)

end Binary64

end DtoForge
