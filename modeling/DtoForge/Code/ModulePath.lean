/-
Where generated files lie and how they name each other.

A directory is the list of its path components below the output root.  A module
specifier leads from the directory of the importing file to the imported one and
leaves out the ending of the file name.
-/
import DtoForge.Text.Trim

namespace DtoForge.ModulePath

/-! ### Paths as text -/

/-- The ordinary components of a path.  Empty components, `.` and `..` are not. -/
def components (path : String) : List String :=
  ((Text.splitAt '/' path.toList).map String.ofList).filter fun c =>
    c != "" && c != "." && c != ".."

/-- A path below a root.  An empty root adds nothing, and a root that ends with a slash
needs no other. -/
def under (root : String) (path : List String) : String :=
  let below := "/".intercalate path
  if root.isEmpty then below
  else if root.toList.getLast? = some '/' then root ++ below
  else root ++ "/" ++ below

/-! ### Module specifiers -/

/-- The file name without one `.ts` at its end. -/
def stem (file : String) : String :=
  match ['s', 't', '.'].isPrefixOf? file.toList.reverse with
  | some rest => String.ofList rest.reverse
  | none => file

/-- What two directories do not share: each without their longest common start. -/
def diverge : List String → List String → List String × List String
  | a :: as, b :: bs => if a = b then diverge as bs else (a :: as, b :: bs)
  | as, bs => (as, bs)

/-- The segments that lead from `source` to `target`: one `..` for each component to
leave, or `.` if there is none, and then the components to enter. -/
def route (source target : List String) : List String :=
  let (leave, enter) := diverge source target
  (if leave.isEmpty then ["."] else leave.map fun _ => "..") ++ enter

/-- The specifier of the file `file` in `target`, seen from a file in `source`. -/
def specifier (source target : List String) (file : String) : String :=
  "/".intercalate (route source target ++ [stem file])

end DtoForge.ModulePath
