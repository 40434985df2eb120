/-
Finding a file of a tree.

The path of a file is followed one component at a time, and every place on the way has to be a
folder.  It is one because the file lies below it, as long as no other file stands there.
-/
import DtoForge.Proofs.Code.ModulePath
import DtoForge.Workspace.Tree

namespace DtoForge.FileTree

open ModulePath

/-- No file of the tree stands where the way along the path needs a folder. -/
def IsFree (tree : FileTree) (path : List String) : Prop :=
  ∀ above below, path = above ++ below → below ≠ [] → tree.lookup above = none

variable {tree : FileTree} {path : List String} {bytes : List UInt8}

theorem entry_of_lookup (hfile : tree.lookup path = some bytes) : tree.entry path = .file bytes := by
  rw [entry, hfile]

/-- Above a file are folders. -/
theorem entry_above (hfile : tree.lookup path = some bytes) (hfree : tree.IsFree path)
    {above below : List String} (hpath : path = above ++ below) (hne : below ≠ []) :
    tree.entry above = .folder := by
  obtain ⟨before, after, htree, -⟩ := List.lookup_eq_some_iff.mp hfile
  have hbelow : (tree.any fun f => above.isPrefixOf f.1) = true := by
    refine List.any_eq_true.mpr ⟨(path, bytes), by simp [htree], ?_⟩
    rw [hpath, List.isPrefixOf_iff_prefix]
    exact List.prefix_append above below
  rw [entry, hfree above below hpath hne, hbelow, Bool.or_true]
  rfl

/-- Through folders, ordinary components are followed one after the other. -/
theorem walk_eq_entry {steps : List String} (hstep : ∀ c ∈ steps, c ≠ "" ∧ IsOrdinary c) :
    ∀ {here : List String},
      (∀ above below, steps = above ++ below → below ≠ [] → tree.entry (here ++ above) = .folder) →
        tree.walk (some here) steps = tree.entry (here ++ steps) := by
  induction steps with
  | nil =>
      intro here _
      rw [List.append_nil]
      rfl
  | cons c steps ih =>
      intro here hfolders
      obtain ⟨hempty, hdot, hdots, -⟩ := hstep c List.mem_cons_self
      have hhere : tree.entry here = .folder := by
        simpa using hfolders [] (c :: steps) rfl (List.cons_ne_nil _ _)
      have hrest : tree.walk (some (here ++ [c])) steps = tree.entry (here ++ [c] ++ steps) := by
        refine ih (fun d hd => hstep d (List.mem_cons_of_mem _ hd)) fun above below hsteps hne => ?_
        simpa using hfolders (c :: above) below (by rw [hsteps, List.cons_append]) hne
      rw [walk, hhere, if_neg (by decide), if_neg (by simp [hempty, hdot]), if_neg hdots, hrest,
        List.append_assoc, List.singleton_append]

/-- **A file of a tree is found at its path.** -/
theorem workspace_eq_file (hfile : tree.lookup path = some bytes) (hfree : tree.IsFree path)
    (hne : path ≠ []) (hstep : ∀ c ∈ path, c ≠ "" ∧ IsOrdinary c) :
    tree.workspace ("/".intercalate path) = .file bytes := by
  have hsplit := split_intercalate hne fun c hc => (hstep c hc).2.2.2
  have hwalk : tree.walk (some []) path = .file bytes := by
    rw [walk_eq_entry hstep fun above below hpath hbelow => ?_, List.nil_append,
      entry_of_lookup hfile]
    exact entry_above hfile hfree hpath hbelow
  unfold workspace
  dsimp only
  rw [hsplit]
  obtain ⟨first, rest, rfl⟩ := List.exists_cons_of_ne_nil hne
  have hfirst := (hstep first List.mem_cons_self).1
  split
  · next heq => exact absurd (List.cons.inj heq).1 hfirst
  · next heq => exact absurd (List.cons.inj heq).1 hfirst
  · exact hwalk

end DtoForge.FileTree
