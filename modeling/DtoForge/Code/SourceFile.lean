/-
Generated source files.

A file is its import statements and its declarations.  An index file re-exports the
other files of its directory.
-/
import DtoForge.Code.ClassDecl
import DtoForge.Code.Import
import DtoForge.Code.ModulePath

namespace DtoForge

/-- The text of a file: the imports, a blank line if there are any, and the
declarations with a blank line between them. -/
def fileText (out : OutputType) (imports : List Import) (declarations : List ClassDecl) :
    String :=
  String.join (imports.map fun i => i.text ++ "\n")
    ++ (if imports.isEmpty then "" else "\n")
    ++ "\n".intercalate (declarations.map (ClassDecl.text out))

/-- The text of an index: one line for each file, in the order given. -/
def indexText (files : List String) : String :=
  String.join (files.map fun file => "export * from './" ++ ModulePath.stem file ++ "';\n")

/-- A file to write: its path, the output root included, and its text. -/
structure GeneratedFile where
  path : String
  content : String
  deriving DecidableEq, Repr

end DtoForge
