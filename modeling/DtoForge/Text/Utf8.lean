/-
Text of bytes.

The bytes are cut into characters, and where they encode none, into faults: a fault is as
much of an encoded character as is there before it breaks off, and one byte at least.  A
strict reader takes no fault, and a lenient one puts the replacement character in its place.
-/
namespace DtoForge.Utf8

/-! ### One character -/

/-- What the first byte of a character gives to its code, and the bounds of the bytes that
have to follow. -/
def opening? (b : Nat) : Option (Nat × List (Nat × Nat)) :=
  let any := (0x80, 0xBF)
  if b < 0x80 then some (b, [])
  else if b < 0xC2 then none
  else if b < 0xE0 then some (b - 0xC0, [any])
  else if b = 0xE0 then some (0, [(0xA0, 0xBF), any])
  else if b = 0xED then some (0xD, [(0x80, 0x9F), any])
  else if b < 0xF0 then some (b - 0xE0, [any, any])
  else if b = 0xF0 then some (0, [(0x90, 0xBF), any, any])
  else if b < 0xF4 then some (b - 0xF0, [any, any, any])
  else if b = 0xF4 then some (4, [(0x80, 0x8F), any, any])
  else none

/-- The code with the bytes that have to follow, and what is left after them; if one is out
of its bounds, no code and what is left from there. -/
def continued (code : Nat) : List (Nat × Nat) → List UInt8 → Option Nat × List UInt8
  | [], r => (some code, r)
  | _ :: _, [] => (none, [])
  | (low, high) :: bounds, b :: r =>
    if low ≤ b.toNat ∧ b.toNat ≤ high then continued (code * 64 + (b.toNat - 0x80)) bounds r
    else (none, b :: r)

/-- The character that starts with the given byte, or a fault, and what is left. -/
def next (b : UInt8) (r : List UInt8) : Option Char × List UInt8 :=
  match opening? b.toNat with
  | none => (none, r)
  | some (code, bounds) =>
    let (code?, r) := continued code bounds r
    (code?.map Char.ofNat, r)

theorem length_continued_le (code : Nat) (bounds : List (Nat × Nat)) (r : List UInt8) :
    (continued code bounds r).2.length ≤ r.length := by
  induction bounds generalizing code r with
  | nil => simp [continued]
  | cons bound bounds ih =>
    cases r with
    | nil => simp [continued]
    | cons b r =>
      simp only [continued]
      split
      · exact Nat.le_succ_of_le (ih _ r)
      · simp

theorem length_next_le (b : UInt8) (r : List UInt8) : (next b r).2.length ≤ r.length := by
  unfold next
  split
  · simp
  · exact length_continued_le _ _ r

/-! ### Texts -/

/-- The characters and faults of bytes. -/
def pieces : List UInt8 → List (Option Char)
  | [] => []
  | b :: r => (next b r).1 :: pieces (next b r).2
termination_by bytes => bytes.length
decreasing_by
  have := length_next_le b r
  simp only [List.length_cons]
  omega

/-- The text of bytes without faults. -/
def decode? (bytes : List UInt8) : Option String :=
  ((pieces bytes).mapM id).map String.ofList

/-- The text of bytes, with replacement characters for faults. -/
def decode (bytes : List UInt8) : String :=
  String.ofList ((pieces bytes).map (·.getD '\uFFFD'))

end DtoForge.Utf8
