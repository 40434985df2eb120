/-
Workspaces held in memory.

A tree is a list of files, each with the way to it from the current folder, and a folder
is there if a file is in it.  Of what lies outside the current folder only the folders
above it are known.
-/
import DtoForge.Text.Trim
import DtoForge.Workspace.Basic

namespace DtoForge

/-- Files, each with its path components from the current folder. -/
abbrev FileTree := List (List String × List UInt8)

namespace FileTree

/-- What the path of the given components leads to. -/
def entry (tree : FileTree) (path : List String) : Entry :=
  match tree.lookup path with
  | some bytes => .file bytes
  | none =>
    if path.isEmpty || tree.any fun f => path.isPrefixOf f.1 then .folder else .missing

/-- Where a path leads from the folder `here`, one component at a time.  Every component
but the last has to lead to a folder.  No folder stands for one above the tree. -/
def walk (tree : FileTree) (here : Option (List String)) : List String → Entry
  | [] => (here.map tree.entry).getD .folder
  | step :: rest =>
    match here with
    | none => if step ∈ ["", ".", ".."] then walk tree none rest else .missing
    | some path =>
      if tree.entry path != .folder then .missing
      else if step = "" ∨ step = "." then walk tree here rest
      else if step = ".." then walk tree (if path.isEmpty then none else some path.dropLast) rest
      else walk tree (some (path ++ [step])) rest

/-- The workspace of a tree.  An absolute path starts above it. -/
def workspace (tree : FileTree) : Workspace := fun path =>
  let steps := (Text.splitAt '/' path.toList).map String.ofList
  match steps with
  | [""] => .missing
  | "" :: rest => tree.walk none rest
  | steps => tree.walk (some []) steps

/-- The tree of files with paths as text. -/
def ofFiles (files : List (String × List UInt8)) : FileTree :=
  files.map fun f =>
    (((Text.splitAt '/' f.1.toList).map String.ofList).filter fun c => c != "" && c != ".", f.2)

end FileTree

end DtoForge
