/-
Settings from environment variables.

A variable sets the key that its name has after the mark `NESTJS_DTO_CODEGEN__`, in any
case.  Two low lines inside the key lead into a table.
-/
import DtoForge.Settings.Table
import DtoForge.Text.Search

namespace DtoForge.Settings

/-- Variables with their values, in the order in which they were set. -/
abbrev Environment := List (String × String)

/-! ### Keys -/

/-- The names of variables that are settings start with this, in any case. -/
def environmentMark : String := "nestjs_dto_codegen__"

/-- The key of a variable. -/
def keyOf? (name : String) : Option (List Char) :=
  environmentMark.toList.isPrefixOf? (name.toList.map Char.toLower)

/-- The parts of a key between double low lines. -/
def parts : List Char → List (List Char)
  | [] => [[]]
  | '_' :: '_' :: r => [] :: parts r
  | c :: r =>
    match parts r with
    | [] => [[c]]
    | part :: rest => (c :: part) :: rest

/-- Whether a part of a key is a name. -/
def isName (part : List Char) : Bool :=
  !part.isEmpty && part.all fun c => c.isAlphanum || c == '_' || c == '-'

/-- The first part of a key and those after it.  A key with a part that is no name is not
taken apart. -/
def path (key : List Char) : String × List String :=
  match parts key with
  | first :: rest =>
    if (first :: rest).all isName then (String.ofList first, rest.map String.ofList)
    else (String.ofList key, [])
  | [] => (String.ofList key, [])

/-! ### Entries -/

/-- Puts a value under a key, in the place of what stood there. -/
def put (key : String) (v : Toml) : Entries → Entries
  | [] => [(key, v)]
  | (k, w) :: rest => if k = key then (key, v) :: rest else (k, w) :: put key v rest

/-- The entries of a table, and none of anything else. -/
def entriesOf : Option Toml → Entries
  | some (.table entries) => entries
  | _ => []

/-- Puts a value under a path.  What stands in the way of a table gives way to it. -/
def putUnder (v : Toml) (key : String) : List String → Entries → Entries
  | [], entries => put key v entries
  | next :: rest, entries =>
    put key (.table (putUnder v next rest (entriesOf (entries.lookup key)))) entries

/-- The entries after a variable has been heard. -/
def hear (entries : Entries) (v : String × String) : Entries :=
  match keyOf? v.1 with
  | none => entries
  | some key =>
    let (first, rest) := path key
    putUnder (.string v.2) first rest entries

/-- The entries after the environment has been heard, which overrides them. -/
def override (env : Environment) (entries : Entries) : Entries :=
  env.foldl hear entries

end DtoForge.Settings
