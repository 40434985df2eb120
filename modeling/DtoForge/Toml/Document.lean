/-
Reading a TOML document.

A document is a row of statements, each on a line of its own: a header opens a table, and
an entry belongs to the table opened last.  A document that breaks a rule anywhere, a key
that stands twice included, has no value.
-/
import DtoForge.Toml.Reader

namespace DtoForge.Toml

/-! ### Statements -/

/-- What a line says. -/
inductive Statement
  /-- Opens the table `key` below the tables `above`. -/
  | opens (above : List String) (key : String)
  /-- Opens one more of the tables `key` below the tables `above`. -/
  | appends (above : List String) (key : String)
  | entry (key : String) (keys : List String) (value : Toml)

/-- The tables above the last part of a dotted key, and that part. -/
def lastKey (key : String) : List String → List String × String
  | [] => ([], key)
  | next :: rest =>
    let (above, last) := lastKey next rest
    (key :: above, last)

/-- The statement at the front of a text. -/
def statement? (s : List Char) : Option (Statement × List Char) :=
  match s with
  | '[' :: '[' :: r => do
    let ((key, keys), r) ← path? r
    let r ← after? ']' r >>= after? ']'
    let (above, key) := lastKey key keys
    some (.appends above key, r)
  | '[' :: r => do
    let ((key, keys), r) ← path? r
    let r ← after? ']' r
    let (above, key) := lastKey key keys
    some (.opens above key, r)
  | s => do
    let (((key, keys), v), r) ← keyed? value? s
    some (.entry key keys v, r)

/-- The statements of a text, after those of `done`, the last one first. -/
def statementsFrom (done : List Statement) (s : List Char) : Option (List Statement) :=
  match gap? s with
  | none => none
  | some [] => some done.reverse
  | some start =>
    match statement? start with
    | none => none
    | some (statement, r) =>
      if r.length < s.length then
        if endsLine r then statementsFrom (statement :: done) r else none
      else none
termination_by s.length

/-! ### Building the tree -/

/-- The tables so far, and the path to the one opened last. -/
structure Draft where
  entries : Entries := []
  current : List String := []

/-- What a statement makes of the tables so far. -/
def Draft.add? (d : Draft) : Statement → Option Draft
  | .opens above key => do
    let entries ← d.entries.change? (·.open? key) above
    some ⟨entries, above ++ [key]⟩
  | .appends above key => do
    let entries ← d.entries.change? (·.append? key) above
    some ⟨entries, above ++ [key]⟩
  | .entry key keys value => do
    let entries ← d.entries.change? (·.put? value key keys) d.current
    some { d with entries }

/-! ### Documents -/

/-- The text without a byte order mark at its start. -/
def dropMark : List Char → List Char
  | '\uFEFF' :: r => r
  | s => s

/-- The entries of a document. -/
def read? (text : String) : Option (List (String × Toml)) := do
  let statements ← statementsFrom [] (dropMark text.toList)
  let draft ← statements.foldlM Draft.add? {}
  some (closeEntries draft.entries)

end DtoForge.Toml
