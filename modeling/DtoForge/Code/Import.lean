/-
Import statements.

Names are collected one by one and merged at the end, so that a module is imported
from once.  First come, first listed, for modules and for names alike.
-/
namespace DtoForge

/-- The statement that imports `names` from the module `source`. -/
structure Import where
  source : String
  names : List String
  deriving DecidableEq, Repr

namespace Import

/-- The statement as it is written. -/
def text (i : Import) : String :=
  "import \x7b " ++ ", ".intercalate i.names ++ " \x7d from '" ++ i.source ++ "';"

/-! ### Collecting -/

/-- Whether some statement imports `name` from `source`. -/
def provides (imports : List Import) (source name : String) : Bool :=
  imports.any fun i => i.source == source && i.names.contains name

/-- Adds a statement for one name, unless the name is imported from there already. -/
def require (imports : List Import) (source name : String) : List Import :=
  if provides imports source name then imports else imports ++ [⟨source, [name]⟩]

/-! ### Merging -/

/-- Adds a name at the end, unless it is there already. -/
def addName (names : List String) (name : String) : List String :=
  if name ∈ names then names else names ++ [name]

/-- Adds a statement to merged ones: its new names go to the statement of its module,
and if there is none it goes to the end. -/
def absorb (i : Import) : List Import → List Import
  | [] => [i]
  | j :: rest =>
    if j.source = i.source then { j with names := i.names.foldl addName j.names } :: rest
    else j :: absorb i rest

/-- One statement for each module. -/
def merge (imports : List Import) : List Import :=
  imports.foldl (fun merged i => absorb i merged) []

end Import

end DtoForge
