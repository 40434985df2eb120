/-
Sets of characters, written as runs.

A character property of the Unicode standard is a long list of code points.  Most of
them lie side by side, and most of the others alternate, so a property is stored as
a list of runs with a step.
-/
namespace DtoForge

/-- The code points `first`, `first + step`, and so on up to `last`. -/
structure CodeRun where
  first : Nat
  last : Nat
  step : Nat

namespace CodeRun

/-- Whether the run holds a code point. -/
def holds (r : CodeRun) (n : Nat) : Bool :=
  decide (r.first ≤ n) && decide (n ≤ r.last) && (n - r.first) % r.step == 0

/-- Whether one of the runs holds a character. -/
def anyHolds (runs : List CodeRun) (c : Char) : Bool :=
  runs.any (·.holds c.toNat)

end CodeRun

end DtoForge
