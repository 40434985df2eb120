/-
Where the files of a run lie.

A run writes the outputs of the composite types and then those of the models, each where its
kind and its name put it.  Indexes come last.  Their directories are collected by putting each
in its place among ordered ones, so none of them comes twice, and an index names the modules of
its own directory, which lead from there to the files that lie there and to no others.
-/
import Mathlib.Data.List.Lex
import Mathlib.Data.String.Basic
import DtoForge.Proofs.Dto.Output

namespace DtoForge

/-! ### Directories in order -/

theorem mem_putDirectory {dir d : List String} {dirs : List (List String)} :
    d ∈ putDirectory dir dirs ↔ d = dir ∨ d ∈ dirs := by
  induction dirs with
  | nil => simp [putDirectory]
  | cons first rest ih =>
      unfold putDirectory
      split
      · exact List.mem_cons
      · split
        · next heq => rw [List.mem_cons, heq, or_self_left]
        · rw [List.mem_cons, ih, List.mem_cons, or_left_comm]

theorem pairwise_putDirectory {dir : List String} {dirs : List (List String)}
    (h : dirs.Pairwise (· < ·)) : (putDirectory dir dirs).Pairwise (· < ·) := by
  induction dirs with
  | nil => exact List.pairwise_singleton _ _
  | cons first rest ih =>
      obtain ⟨hfirst, hrest⟩ := List.pairwise_cons.mp h
      unfold putDirectory
      split
      · next hlt =>
          refine List.pairwise_cons.mpr ⟨fun d hd => ?_, h⟩
          rcases List.mem_cons.mp hd with rfl | hd
          · exact hlt
          · exact lt_trans hlt (hfirst d hd)
      · next hnlt =>
          split
          · exact h
          · next hne =>
              have hlt : first < dir := lt_of_le_of_ne (not_lt.mp hnlt) (Ne.symm hne)
              refine List.pairwise_cons.mpr ⟨fun d hd => ?_, ih hrest⟩
              rcases mem_putDirectory.mp hd with rfl | hd
              · exact hlt
              · exact hfirst d hd

/-- What has been collected from files is what there was and their directories. -/
theorem mem_foldl_putDirectory {dir : List String} (dtos : List Dto) :
    ∀ start : List (List String),
      dir ∈ dtos.foldl (fun dirs d => putDirectory d.directory dirs) start ↔
        dir ∈ start ∨ dir ∈ dtos.map (·.directory) := by
  induction dtos with
  | nil => simp
  | cons d dtos ih =>
      intro start
      rw [List.foldl_cons, ih, mem_putDirectory, List.map_cons, List.mem_cons, or_assoc,
        or_left_comm]

theorem pairwise_foldl_putDirectory (dtos : List Dto) :
    ∀ {start : List (List String)}, start.Pairwise (· < ·) →
      (dtos.foldl (fun dirs d => putDirectory d.directory dirs) start).Pairwise (· < ·) := by
  induction dtos with
  | nil => exact id
  | cons d dtos ih => exact fun hstart => ih (pairwise_putDirectory hstart)

theorem mem_directories {dir : List String} {dtos : List Dto} :
    dir ∈ directories dtos ↔ dir ∈ dtos.map (·.directory) := by
  simp [directories, mem_foldl_putDirectory]

theorem pairwise_directories (dtos : List Dto) : (directories dtos).Pairwise (· < ·) :=
  pairwise_foldl_putDirectory dtos List.Pairwise.nil

/-! ### Where the outputs of a run lie -/

/-- The outputs of a run: those of the composite types and then those of the models that the
settings take. -/
def Settings.written (s : Settings) (dm : Datamodel) : List Target :=
  (dm.outputs (selectedModels s dm)).map fun o => ⟨o.2, o.1.name⟩

/-- The modules of a directory, as a file in the directory names them. -/
def Settings.modulesIn (s : Settings) (dm : Datamodel) (dir : List String) : List String :=
  ((s.written dm).filter (·.directory s == dir)).map fun t => "./" ++ t.kind.moduleName t.name

/-- The index of a directory: one line for each of its modules. -/
def Settings.index (s : Settings) (dm : Datamodel) (dir : List String) : GeneratedFile where
  path := ModulePath.under s.outputDir (dir ++ ["index.ts"])
  content := String.join
    ((s.modulesIn dm dir).map fun module => "export * from '" ++ module ++ "';\n")

namespace Dto

variable {s : Settings} {dm : Datamodel} {dtos : List Dto}

/-- A run's files lie where its outputs do, whatever is told from the places. -/
theorem map_place {α : Type} (tell : List String → String → α)
    (hall : all s dm (selectedModels s dm) = .ok dtos) :
    dtos.map (fun d => tell d.directory d.fileName)
      = (s.written dm).map fun t => tell (t.directory s) t.fileName := by
  rw [Settings.written, List.map_map]
  refine map_of_forall₂ ((matches_all hall).imp fun o d hof => ?_)
  obtain ⟨parts, rfl, -⟩ := hof
  rfl

theorem indexOf_eq (hall : all s dm (selectedModels s dm) = .ok dtos) (dir : List String) :
    indexOf s dtos dir = s.index dm dir := by
  have hplaces := congrArg (fun places => (places.filter (·.1 == dir)).map (·.2))
    (map_place Prod.mk hall)
  simp only [List.filter_map, List.map_map, Function.comp_def] at hplaces
  have hopening : "export * from './" = "export * from '" ++ "./" := by decide
  have hline : ∀ t : Target, "export * from './" ++ ModulePath.stem t.fileName ++ "';\n"
      = "export * from '" ++ ("./" ++ t.kind.moduleName t.name) ++ "';\n" := by
    intro t
    rw [Target.fileName, DtoKind.stem_fileName, hopening]
    simp only [String.append_assoc]
  rw [indexOf, indexText, hplaces, Settings.index, Settings.modulesIn, List.map_map, List.map_map]
  simp only [Function.comp_def, hline]

end Dto

/-- Files that lie as the outputs of a run have to, and the directories that they lie in. -/
structure Layout (s : Settings) (dm : Datamodel) (files : List GeneratedFile)
    (dirs : List (List String)) : Prop where
  /-- Each output has its file, in order. -/
  paths : files.map (·.path) = (s.written dm).map fun t => ModulePath.under s.outputDir (t.path s)
  /-- No directory comes twice, and they are in order of their components. -/
  ordered : dirs.Pairwise (· < ·)
  /-- They are those of the outputs. -/
  directories : ∀ dir, dir ∈ dirs ↔ ∃ t ∈ s.written dm, t.directory s = dir
  /-- The index of a directory leads to the files that lie there, and to no other. -/
  exported : ∀ t ∈ s.written dm, ∀ dir ∈ dirs,
    (∃ module ∈ s.modulesIn dm dir, ModulePath.resolve dir (module ++ ".ts") = some (t.path s)) ↔
      t.directory s = dir

section

variable {s : Settings} {dm : Datamodel} {files : List GeneratedFile}

theorem exported_iff {t : Target} (ht : t ∈ s.written dm) {dir : List String} :
    (∃ module ∈ s.modulesIn dm dir, ModulePath.resolve dir (module ++ ".ts") = some (t.path s)) ↔
      t.directory s = dir := by
  have hleads : ∀ u : Target, u.directory s = dir →
      ModulePath.resolve dir ("./" ++ u.kind.moduleName u.name ++ ".ts") = some (u.path s) := by
    rintro u rfl
    rw [← u.specifier_self s, Target.resolve_specifier_ts]
  constructor
  · rintro ⟨module, hmodule, hresolve⟩
    obtain ⟨u, hu, rfl⟩ := List.mem_map.mp hmodule
    have hdir : u.directory s = dir := beq_iff_eq.mp (List.mem_filter.mp hu).2
    rw [hleads u hdir] at hresolve
    rw [← hdir]
    exact (List.append_inj_left' (Option.some.inj hresolve) rfl).symm
  · intro hdir
    refine ⟨_, List.mem_map_of_mem (List.mem_filter.mpr ⟨ht, beq_iff_eq.mpr hdir⟩), hleads t hdir⟩

/-- **A run writes its outputs in order, and then, if it is asked to, one index for each of
their directories.** -/
theorem files_of_generate (h : generate s dm = .ok files) :
    ∃ main dirs, files = main ++ (if s.reExport then dirs.map (s.index dm) else []) ∧
      Layout s dm main dirs := by
  obtain ⟨dtos, hall, rfl⟩ := generate_eq_ok h
  refine ⟨dtos.map (Dto.file s), directories dtos, ?_, ?_, pairwise_directories dtos, ?_, ?_⟩
  · simp only [List.map_congr_left fun dir _ => Dto.indexOf_eq hall dir]
  · rw [List.map_map]
    exact Dto.map_place (fun dir file => ModulePath.under s.outputDir (dir ++ [file])) hall
  · intro dir
    rw [mem_directories, Dto.map_place (fun dir _ => dir) hall, List.mem_map]
  · exact fun t ht dir _ => exported_iff ht

end

/-- Desks and corners, of which only a desk can be named, with an address.  The audit is
ignored. -/
def office : Datamodel where
  models := [
    { name := "Corner"
      fields := [{ name := "floor", kind := .scalar, type := "Int", isRequired := true }] },
    { name := "Audit", documentation := some "@DtoIgnoreModel"
      fields := [{ name := "id", kind := .scalar, type := "Int", isRequired := true, isId := true }] },
    { name := "Desk"
      fields := [{ name := "id", kind := .scalar, type := "Int", isRequired := true, isId := true }] }]
  types := [
    { name := "Address"
      fields := [{ name := "street", kind := .scalar, type := "String", isRequired := true }] }]

/-- A directory for each model, and indexes. -/
def officeSettings : Settings where
  outputDir := "out"
  resourceStructure := true
  reExport := true

def officePaths : List String :=
  ["out/address/dto/create-address.dto.ts", "out/address/dto/update-address.dto.ts",
    "out/address/dto/address.dto.ts",
    "out/corner/dto/create-corner.dto.ts", "out/corner/dto/update-corner.dto.ts",
    "out/corner/entities/corner.entity.ts", "out/corner/dto/corner.dto.ts",
    "out/desk/dto/connect-desk.dto.ts", "out/desk/dto/create-desk.dto.ts",
    "out/desk/dto/update-desk.dto.ts", "out/desk/entities/desk.entity.ts",
    "out/desk/dto/desk.dto.ts",
    "out/address/dto/index.ts", "out/corner/dto/index.ts", "out/corner/entities/index.ts",
    "out/desk/dto/index.ts", "out/desk/entities/index.ts"]

/-- The office with indexes: the corner has nothing to connect, and entities have directories of
their own. -/
theorem files_of_generate_office :
    ∃ files main dirs, generate officeSettings office = .ok files ∧
      files.map (·.path) = officePaths ∧
        files = main ++ dirs.map (officeSettings.index office) ∧
          Layout officeSettings office main dirs := by
  have hok : (generate officeSettings office).toOption.any (fun files =>
      files.map (·.path) == officePaths) = true := by
    decide +kernel
  obtain ⟨files, hfiles, hpaths⟩ := exists_ok_of_any hok
  obtain ⟨main, dirs, heq, hlayout⟩ := files_of_generate hfiles
  exact ⟨files, main, dirs, hfiles, beq_iff_eq.mp hpaths, heq, hlayout⟩

end DtoForge
