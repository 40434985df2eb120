/-
The tree of tables that a TOML text builds up.

A table comes about by its header, by a header or key below it, or by a dotted key, and
which of these it was decides what may still be added.  A value is closed once it is
written, and inline tables and arrays are values.
-/
import DtoForge.Toml.Basic

namespace DtoForge.Toml

/-- How a table has come about. -/
inductive Origin
  /-- By a header of its own. -/
  | header
  /-- By the header of a table below it. -/
  | implied
  /-- By a dotted key. -/
  | dotted
  deriving DecidableEq, Repr

/-- What stands under a key. -/
inductive Node
  | value (v : Toml)
  | table (origin : Origin) (entries : List (String × Node))
  /-- Tables under one repeated header, the last one first. -/
  | tables (last : List (String × Node)) (earlier : List (List (String × Node)))

/-- The entries of a table. -/
abbrev Entries := List (String × Node)

namespace Entries

/-! ### One entry -/

/-- Puts a node under a key, in the place of what stood there. -/
def set (key : String) (node : Node) : Entries → Entries
  | [] => [(key, node)]
  | (k, n) :: rest => if k = key then (key, node) :: rest else (k, n) :: set key node rest

/-- Puts a node under a new key. -/
def add? (key : String) (node : Node) (entries : Entries) : Option Entries :=
  if (entries.lookup key).isNone then some (entries.set key node) else none

/-! ### Keys and headers -/

/-- Puts a value under a dotted key.  A table with a header is not changed that way. -/
def put? (value : Toml) (key : String) : List String → Entries → Option Entries
  | [], entries => entries.add? key (.value value)
  | k :: keys, entries =>
    match entries.lookup key with
    | none => do
      let inner ← put? value k keys []
      some (entries.set key (.table .dotted inner))
    | some (.table .header _) => none
    | some (.table origin inner) => do
      let inner ← put? value k keys inner
      some (entries.set key (.table origin inner))
    | some _ => none

/-- Changes the entries of the table that a header opened, the last one of its name. -/
def change? (f : Entries → Option Entries) : List String → Entries → Option Entries
  | [], entries => f entries
  | key :: keys, entries =>
    match entries.lookup key with
    | none => do
      let inner ← change? f keys []
      some (entries.set key (.table .implied inner))
    | some (.table origin inner) => do
      let inner ← change? f keys inner
      some (entries.set key (.table origin inner))
    | some (.tables last earlier) => do
      let last ← change? f keys last
      some (entries.set key (.tables last earlier))
    | some (.value _) => none

/-- Opens a table by its header.  A table that has one, or that dotted keys have made, is
not opened again. -/
def open? (key : String) (entries : Entries) : Option Entries :=
  match entries.lookup key with
  | none => some (entries.set key (.table .header []))
  | some (.table .implied inner) => some (entries.set key (.table .header inner))
  | some _ => none

/-- Opens one more table of a repeated header. -/
def append? (key : String) (entries : Entries) : Option Entries :=
  match entries.lookup key with
  | none => some (entries.set key (.tables [] []))
  | some (.tables last earlier) => some (entries.set key (.tables [] (last :: earlier)))
  | some _ => none

end Entries

/-! ### Values -/

mutual

/-- The value of a node. -/
def Node.close : Node → Toml
  | .value v => v
  | .table _ entries => .table (closeEntries entries)
  | .tables last earlier =>
    .array ((Toml.table (closeEntries last) :: closeAll earlier).reverse)

/-- The values of entries. -/
def closeEntries : List (String × Node) → List (String × Toml)
  | [] => []
  | (key, node) :: rest => (key, node.close) :: closeEntries rest

/-- The values of tables. -/
def closeAll : List (List (String × Node)) → List Toml
  | [] => []
  | entries :: rest => .table (closeEntries entries) :: closeAll rest

end

end DtoForge.Toml
