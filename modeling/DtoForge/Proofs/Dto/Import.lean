/-
The imports of a file.

They fall apart into those from packages, which stand as they were decided, and those from
other files of the output, which are merged.  The second kind is all that a relative
specifier can belong to, and it holds exactly the outputs that the file refers to, less
those that lie in the file itself.
-/
import DtoForge.Proofs.Dto.Output

namespace DtoForge

/-! ### Packages -/

/-- The packages that a file can import from, in the order of its statements. -/
def packages : List String :=
  ["@prisma/client", "class-validator", "class-transformer", "@nestjs/swagger"]

theorem isRelative_of_mem_packages {i : Import} (h : i.source ∈ packages) :
    i.isRelative = false := by
  have hall : ∀ p ∈ packages,
      ("./".toList.isPrefixOf p.toList || "../".toList.isPrefixOf p.toList) = false := by
    decide +kernel
  exact hall i.source h

theorem sources_importOf (source : String) (names : List String) :
    ((importOf source names).map (·.source)).Sublist [source] := by
  unfold importOf
  split <;> simp

theorem sources_packageImports (members : List Member) (extraModels : List String) :
    ((packageImports members extraModels).map (·.source)).Sublist packages := by
  simp only [packageImports, List.map_append]
  exact (((sources_importOf _ _).append (sources_importOf _ _)).append
    (sources_importOf _ _)).append (sources_importOf _ _)

theorem nodup_sources_packageImports (members : List Member) (extraModels : List String) :
    ((packageImports members extraModels).map (·.source)).Nodup :=
  (sources_packageImports members extraModels).nodup (by decide)

theorem source_mem_packages {members : List Member} {extraModels : List String} {i : Import}
    (h : i ∈ packageImports members extraModels) : i.source ∈ packages :=
  (sources_packageImports members extraModels).subset (List.mem_map_of_mem h)

/-! ### Other files -/

section

variable {s : Settings} {self : Target}

/-- Requiring an output asks for its class in its file, if that is another file. -/
theorem provides_requireTarget {imports : List Import} {t : Target} {source name : String} :
    Import.provides (requireTarget s self imports t) source name = true ↔
      Import.provides imports source name = true ∨
        t.path s ≠ self.path s ∧ t.specifier s (self.directory s) = source ∧
          name = t.className s := by
  unfold requireTarget
  by_cases hshared : self.sharesFile s t = true
  · have hpath : t.path s = self.path s := (Target.sharesFile_iff.mp hshared).symm
    rw [if_pos hshared]
    simp [hpath]
  · have hpath : t.path s ≠ self.path s := fun h => hshared (Target.sharesFile_iff.mpr h.symm)
    rw [if_neg hshared, Import.provides_require]
    simp [hpath, Target.specifier]

theorem provides_foldl_requireTarget {source name : String} {references : List Target} :
    ∀ {imports : List Import},
      Import.provides (references.foldl (requireTarget s self) imports) source name = true ↔
        Import.provides imports source name = true ∨
          ∃ t ∈ references, t.path s ≠ self.path s ∧
            t.specifier s (self.directory s) = source ∧ name = t.className s := by
  induction references with
  | nil => simp
  | cons t references ih =>
      intro imports
      rw [List.foldl_cons, ih, provides_requireTarget, or_assoc]
      simp [or_and_right, exists_or]

/-- **The local imports are the outputs that are referred to and lie elsewhere.** -/
theorem provides_localImports {references : List Target} {source name : String} :
    Import.provides (localImports s self references) source name = true ↔
      ∃ t ∈ references, t.path s ≠ self.path s ∧
        t.specifier s (self.directory s) = source ∧ name = t.className s := by
  rw [localImports, provides_foldl_requireTarget]
  simp [Import.provides]

theorem forall_localImports {references : List Target} :
    ∀ i ∈ localImports s self references, i.isRelative = true ∧ i.names ≠ [] := by
  have hstep : ∀ (imports : List Import) (t : Target),
      (∀ i ∈ imports, i.isRelative = true ∧ i.names ≠ []) →
        ∀ i ∈ requireTarget s self imports t, i.isRelative = true ∧ i.names ≠ [] := by
    intro imports t h i hi
    unfold requireTarget at hi
    split at hi
    · exact h i hi
    · rcases Import.mem_require hi with hi | rfl
      · exact h i hi
      · exact ⟨ModulePath.isRelative_specifier _ _ _ _, by simp⟩
  have hfold : ∀ (imports : List Import), (∀ i ∈ imports, i.isRelative = true ∧ i.names ≠ []) →
      ∀ i ∈ references.foldl (requireTarget s self) imports,
        i.isRelative = true ∧ i.names ≠ [] := by
    induction references with
    | nil => exact fun _ h => h
    | cons t references ih => exact fun imports h => ih _ (hstep imports t h)
  exact hfold [] (by simp)

theorem forall_merge_localImports {references : List Target} :
    ∀ i ∈ Import.merge (localImports s self references), i.isRelative = true ∧ i.names ≠ [] := by
  refine Import.forall_merge ?_ forall_localImports
  intro i j _ hj
  obtain ⟨first, rest, hnames⟩ := List.exists_cons_of_ne_nil hj.2
  have hmem : first ∈ i.names.foldl Import.addName j.names :=
    Import.mem_foldl_addName.mpr (Or.inl (by simp [hnames]))
  exact ⟨hj.1, List.ne_nil_of_mem hmem⟩

end

/-! ### All imports of a file -/

namespace Dto

section

variable {s : Settings}

/-- **The imports of a file are those from packages and then the merged local ones.** -/
theorem imports_ofParts (self : Target) (parts : List Part) :
    (ofParts s self parts).imports
      = packageImports (ofParts s self parts).allMembers (ofParts s self parts).extraModels
        ++ Import.merge (localImports s self (parts.flatMap (·.references))) := by
  refine Import.merge_append_of_disjoint (nodup_sources_packageImports _ _) ?_
  intro i hi hmem
  have hpackage := (sources_packageImports _ _).subset hmem
  exact absurd (forall_localImports i hi).1 (by simp [isRelative_of_mem_packages hpackage])

theorem localImports_ofParts (self : Target) (parts : List Part) :
    (ofParts s self parts).imports.filter (·.isRelative)
      = Import.merge (localImports s self (parts.flatMap (·.references))) := by
  have hpackages : (packageImports (ofParts s self parts).allMembers
      (ofParts s self parts).extraModels).filter (·.isRelative) = [] :=
    List.filter_eq_nil_iff.mpr fun i hi => by
      simp [isRelative_of_mem_packages (source_mem_packages hi)]
  rw [imports_ofParts, List.filter_append, hpackages, List.nil_append]
  exact List.filter_eq_self.mpr fun i hi => (forall_merge_localImports i hi).1

theorem mem_imports_ofParts {self : Target} {parts : List Part} {i : Import}
    (h : i.isRelative = true) :
    i ∈ (ofParts s self parts).imports ↔
      i ∈ Import.merge (localImports s self (parts.flatMap (·.references))) := by
  rw [← localImports_ofParts, List.mem_filter, and_iff_left h]

end

namespace IsOf

variable {s : Settings} {dm : Datamodel} {m : Model} {kind : DtoKind} {d : Dto}

/-- **A file imports from other files exactly what it refers to there.** -/
theorem imports_iff (h : IsOf s dm m kind d) {source name : String} :
    (∃ i ∈ d.imports, i.isRelative = true ∧ i.source = source ∧ name ∈ i.names) ↔
      ∃ t ∈ m.targets kind, t.path s ≠ d.path ∧ t.specifier s d.directory = source ∧
        name = t.className s := by
  rw [h.path_eq, h.directory_eq]
  obtain ⟨parts, rfl, -, href, -⟩ := h
  rw [← href, ← provides_localImports, ← Import.provides_merge, Import.provides_iff]
  constructor
  · rintro ⟨i, hi, hrelative, hsource, hname⟩
    exact ⟨i, (mem_imports_ofParts hrelative).mp hi, hsource, hname⟩
  · rintro ⟨i, hi, hsource, hname⟩
    have hrelative := (forall_merge_localImports i hi).1
    exact ⟨i, (mem_imports_ofParts hrelative).mpr hi, hrelative, hsource, hname⟩

theorem names_ne_nil (h : IsOf s dm m kind d) :
    ∀ i ∈ d.imports, i.isRelative = true → i.names ≠ [] := by
  intro i hi hrelative
  obtain ⟨parts, rfl, -⟩ := h
  exact (forall_merge_localImports i ((mem_imports_ofParts hrelative).mp hi)).2

end IsOf

end Dto

end DtoForge
