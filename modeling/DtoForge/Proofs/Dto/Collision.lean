/-
Which files of a run meet.

Two files meet if they have one path, and then the later one is all that is left.  As long
as no two file bases of a data model agree, there is one way for that to happen.  The ending
of a file name tells entities from everything else, and the opening tells the inputs apart,
but a plain class has no opening of its own, so its base may begin with the one of an input
and go on with the base of another model.  Where every model has a directory the two do not
meet, because they lie in different ones.
-/
import Mathlib.Data.List.Nodup
import DtoForge.Proofs.Dto.Layout

namespace DtoForge

/-! ### Names that meet -/

/-- Whether an input has the file name of a plain class. -/
def Target.Meets (t u : Target) : Prop :=
  t.kind.isInput = true ∧ u.kind = .plain ∧ fileBase u.name = t.kind.opening ++ fileBase t.name

instance (t u : Target) : Decidable (t.Meets u) :=
  inferInstanceAs (Decidable (_ ∧ _ ∧ _))

theorem DtoKind.fileName_ne_index (kind : DtoKind) (name : String) :
    kind.fileName name ≠ "index.ts" := by
  intro h
  have hrev := congrArg (fun file => file.toList.reverse) h
  cases kind <;> simp [fileName] at hrev

theorem Settings.fileBase_eq_of_directory_eq {s : Settings} (hdirs : s.resourceStructure = true)
    {k l : DtoKind} {a b : String} (h : s.directory k a = s.directory l b) :
    fileBase a = fileBase b := by
  have hfolder : ∀ kind : DtoKind, (kind.folder != "") = true := by
    intro kind
    cases kind <;> rfl
  unfold directory at h
  rw [if_pos hdirs, if_pos hdirs] at h
  -- A model without a base has a directory with a component less.
  by_cases ha : fileBase a = "" <;> by_cases hb : fileBase b = ""
  · rw [ha, hb]
  · simp [ha, hb, hfolder] at h
  · simp [ha, hb, hfolder] at h
  · have hboth : fileBase a = fileBase b ∧ k.folder = l.folder := by
      simpa [ha, hb, hfolder] using h
    exact hboth.1

namespace Target

theorem Meets.isInput_right {t u : Target} (h : t.Meets u) : u.kind.isInput = false := by
  rw [h.2.1]
  rfl

theorem fileName_eq_iff_meets {t u : Target} (ht : t.kind.isInput = true)
    (hu : u.kind.isInput = false) : t.fileName = u.fileName ↔ t.Meets u := by
  obtain ⟨k, a⟩ := t
  obtain ⟨l, b⟩ := u
  cases l with
  | entity =>
      have hne : k ≠ .entity := by
        rintro rfl
        cases ht
      exact ⟨fun h => absurd h.symm (DtoKind.entity_fileName_ne hne), fun h => nomatch h.2.1⟩
  | plain =>
      have hending : k.ending = DtoKind.ending .plain := by
        cases k with
        | entity => cases ht
        | _ => rfl
      simp only [fileName, DtoKind.fileName_eq, DtoKind.moduleName, hending,
        String.append_left_inj]
      simp [Meets, ht, DtoKind.opening, eq_comm]
  | _ => cases hu

theorem fileName_eq_iff {t u : Target} :
    t.fileName = u.fileName ↔
      (t.kind = u.kind ∧ fileBase t.name = fileBase u.name) ∨ t.Meets u ∨ u.Meets t := by
  constructor
  · intro h
    cases ht : t.kind.isInput <;> cases hu : u.kind.isInput
    · exact Or.inl (DtoKind.fileName_inj (ht.trans hu.symm) h)
    · exact Or.inr (Or.inr ((fileName_eq_iff_meets hu ht).mp h.symm))
    · exact Or.inr (Or.inl ((fileName_eq_iff_meets ht hu).mp h))
    · exact Or.inl (DtoKind.fileName_inj (ht.trans hu.symm) h)
  · rintro (⟨hkind, hbase⟩ | h | h)
    · simp only [fileName, DtoKind.fileName_eq, DtoKind.moduleName, hkind, hbase]
    · exact (fileName_eq_iff_meets h.1 h.isInput_right).mpr h
    · exact ((fileName_eq_iff_meets h.1 h.isInput_right).mpr h).symm

theorem Meets.fileBase_ne {t u : Target} (h : t.Meets u) : fileBase t.name ≠ fileBase u.name := by
  obtain ⟨hinput, -, hbase⟩ := h
  intro heq
  -- The opening is what one of the two is longer by.
  have hlength := congrArg String.length (heq.trans hbase)
  cases hkind : t.kind <;> simp [hkind, DtoKind.isInput, DtoKind.opening] at hinput hlength

/-- Two outputs have one path if they are of one kind and base, or if one meets the other and
nothing lies in a directory of its own. -/
theorem path_eq_iff {s : Settings} {t u : Target} :
    t.path s = u.path s ↔
      (t.kind = u.kind ∧ fileBase t.name = fileBase u.name) ∨
        s.resourceStructure = false ∧ (t.Meets u ∨ u.Meets t) := by
  rw [← sharesFile_iff, sharesFile, Bool.and_eq_true, beq_iff_eq, beq_iff_eq, fileName_eq_iff]
  cases hdirs : s.resourceStructure with
  | false =>
      have hflat : t.directory s = u.directory s := by
        simp [directory, Settings.directory, hdirs]
      simp [hflat]
  | true =>
      constructor
      · rintro ⟨hdir, hsame | h | h⟩
        · exact Or.inl hsame
        · exact absurd (s.fileBase_eq_of_directory_eq hdirs hdir) h.fileBase_ne
        · exact absurd (s.fileBase_eq_of_directory_eq hdirs hdir) h.fileBase_ne.symm
      · rintro (⟨hkind, hbase⟩ | ⟨h, -⟩)
        · refine ⟨?_, Or.inl ⟨hkind, hbase⟩⟩
          simp only [directory, Settings.directory, hkind, hbase]
        · cases h

end Target

/-! ### Outputs that meet -/

theorem fst_mem_of_mem_flatMap {models : List Model} {kinds : Model → List DtoKind}
    {o : Model × DtoKind} (h : o ∈ models.flatMap fun m => (kinds m).map (m, ·)) :
    o.1 ∈ models := by
  obtain ⟨m, hm, hkinds⟩ := List.mem_flatMap.mp h
  obtain ⟨k, -, rfl⟩ := List.mem_map.mp hkinds
  exact hm

theorem nodup_flatMap_kinds {models : List Model} {kinds : Model → List DtoKind}
    (hmodels : models.Nodup) (hkinds : ∀ m, (kinds m).Nodup) :
    (models.flatMap fun m => (kinds m).map (m, ·)).Nodup := by
  refine List.nodup_flatMap.mpr ⟨fun m _ => (hkinds m).map (Prod.mk_right_injective m), ?_⟩
  refine hmodels.imp fun hne => ?_
  intro o ho ho'
  obtain ⟨k, -, rfl⟩ := List.mem_map.mp ho
  obtain ⟨l, -, heq⟩ := List.mem_map.mp ho'
  exact hne (congrArg Prod.fst heq).symm

theorem Datamodel.nodup_outputs {dm : Datamodel} {models : List Model}
    (h : (models ++ dm.types).Nodup) : (dm.outputs models).Nodup := by
  obtain ⟨hmodels, htypes, hdisjoint⟩ := List.nodup_append.mp h
  refine List.nodup_append.mpr ⟨?_, ?_, ?_⟩
  · exact nodup_flatMap_kinds (htypes.filter _) fun _ => by decide
  · refine nodup_flatMap_kinds (hmodels.filter _) fun m => ?_
    unfold Model.kinds
    split <;> decide
  · intro o ho o' ho' heq
    have htype : o.1 ∈ dm.types := List.mem_of_mem_filter (fst_mem_of_mem_flatMap ho)
    have hmodel : o'.1 ∈ models := List.mem_of_mem_filter (fst_mem_of_mem_flatMap ho')
    exact hdisjoint o'.1 hmodel o.1 htype (congrArg Prod.fst heq.symm)

section

variable {s : Settings} {dm : Datamodel}

/-- Where no two file bases agree, the kind and the base tell an output. -/
theorem nodup_written (hbases : (dm.names.map fileBase).Nodup) :
    ((s.written dm).map fun t => (t.kind, fileBase t.name)).Nodup := by
  rw [Datamodel.names, List.map_map] at hbases
  have hselected : ((selectedModels s dm) ++ dm.types).Sublist (dm.models ++ dm.types) :=
    List.filter_sublist.append (List.Sublist.refl _)
  rw [Settings.written, List.map_map]
  refine List.Nodup.map_on ?_ (Datamodel.nodup_outputs (hbases.of_map.sublist hselected))
  rintro ⟨m, k⟩ ho ⟨n, l⟩ ho' heq
  have hmem : ∀ o ∈ dm.outputs (selectedModels s dm), o.1 ∈ dm.models ++ dm.types := by
    intro o ho
    refine hselected.subset (List.mem_append.mpr ?_)
    exact (Datamodel.mem_of_mem_outputs ho).symm
  obtain ⟨hkind, hbase⟩ := Prod.mk.inj heq
  exact Prod.ext (List.inj_on_of_nodup_map hbases (hmem _ ho) (hmem _ ho') hbase) hkind

/-- Where no two file bases agree, paths of outputs agree only where an input meets a plain
class and both are in one directory. -/
theorem nodup_paths_written_iff (hbases : (dm.names.map fileBase).Nodup) :
    ((s.written dm).map (·.path s)).Nodup ↔
      s.resourceStructure = true ∨ ∀ t ∈ s.written dm, ∀ u ∈ s.written dm, ¬t.Meets u := by
  have hwritten : ((s.written dm).map fun t => (t.kind, fileBase t.name)).Nodup :=
    nodup_written hbases
  rw [List.nodup_map_iff_inj_on hwritten.of_map]
  constructor
  · intro hinj
    rw [or_iff_not_imp_left, Bool.not_eq_true]
    intro hflat t ht u hu hmeets
    have heq := hinj t ht u hu (Target.path_eq_iff.mpr (Or.inr ⟨hflat, Or.inl hmeets⟩))
    exact hmeets.fileBase_ne (by rw [heq])
  · intro hapart t ht u hu hpath
    rcases Target.path_eq_iff.mp hpath with ⟨hkind, hbase⟩ | ⟨hflat, hmeets⟩
    · exact List.inj_on_of_nodup_map hwritten ht hu (Prod.ext hkind hbase)
    · rcases hapart with hdirs | hnone
      · exact absurd (hflat.symm.trans hdirs) Bool.false_ne_true
      · rcases hmeets with hmeets | hmeets
        · exact absurd hmeets (hnone t ht u hu)
        · exact absurd hmeets (hnone u hu t ht)

/-! ### Files that meet -/

theorem nodup_map_under_iff {root : String} {paths : List (List String)}
    (h : ∀ p ∈ paths, ModulePath.IsBelow p) :
    (paths.map (ModulePath.under root)).Nodup ↔ paths.Nodup := by
  refine ⟨List.Nodup.of_map _, fun hpaths => hpaths.map_on fun p hp q hq heq => ?_⟩
  refine ModulePath.under_inj (h p hp).ne_nil (h q hq).ne_nil (fun c hc => ?_) heq
  exact (List.mem_append.mp hc).elim ((h p hp).slash_notMem c) ((h q hq).slash_notMem c)

/-- The index of a directory, below the output root. -/
def indexPath (dir : List String) : List String :=
  dir ++ ["index.ts"]

/-- The paths of a run below the output root, where the given directories are indexed. -/
def Settings.pathsWith (s : Settings) (dm : Datamodel) (dirs : List (List String)) :
    List (List String) :=
  (s.written dm).map (·.path s) ++ if s.reExport then dirs.map indexPath else []

theorem Target.path_ne_indexPath (t : Target) (dir : List String) : t.path s ≠ indexPath dir := by
  intro h
  have hname : t.fileName = "index.ts" := by simpa using List.append_inj_right' h rfl
  exact DtoKind.fileName_ne_index t.kind t.name hname

theorem nodup_pathsWith_iff {dirs : List (List String)} (hdirs : dirs.Nodup) :
    (s.pathsWith dm dirs).Nodup ↔ ((s.written dm).map (·.path s)).Nodup := by
  have hindexes : (dirs.map indexPath).Nodup := hdirs.map (List.append_left_injective _)
  have hapart : ∀ p ∈ (s.written dm).map (·.path s), ∀ q ∈ dirs.map indexPath, p ≠ q := by
    intro p hp q hq
    obtain ⟨t, -, rfl⟩ := List.mem_map.mp hp
    obtain ⟨dir, -, rfl⟩ := List.mem_map.mp hq
    exact t.path_ne_indexPath dir
  unfold Settings.pathsWith
  split
  · rw [List.nodup_append]
    exact ⟨And.left, fun hwritten => ⟨hwritten, hindexes, hapart⟩⟩
  · rw [List.append_nil]

theorem isBelow_of_mem_pathsWith {dirs : List (List String)}
    (hof : ∀ dir ∈ dirs, ∃ t ∈ s.written dm, t.directory s = dir) :
    ∀ p ∈ s.pathsWith dm dirs, ModulePath.IsBelow p := by
  intro p hp
  rcases List.mem_append.mp hp with hp | hp
  · obtain ⟨t, -, rfl⟩ := List.mem_map.mp hp
    exact t.isBelow_path s
  · split at hp
    · obtain ⟨dir, hdir, rfl⟩ := List.mem_map.mp hp
      obtain ⟨t, -, rfl⟩ := hof dir hdir
      exact t.isBelow_place s (by decide) ⟨by decide, by decide, by decide⟩
    · cases hp

variable {files : List GeneratedFile}

/-- The files of a run lie where its outputs do, and the indexes in the directories of these. -/
theorem paths_of_generate (h : generate s dm = .ok files) :
    ∃ dirs : List (List String), dirs.Nodup ∧
      (∀ dir ∈ dirs, ∃ t ∈ s.written dm, t.directory s = dir) ∧
        files.map (·.path) = (s.pathsWith dm dirs).map (ModulePath.under s.outputDir) := by
  obtain ⟨dtos, hall, rfl⟩ := generate_eq_ok h
  refine ⟨directories dtos, (pairwise_directories dtos).imp ne_of_lt, ?_, ?_⟩
  · intro dir hdir
    rw [mem_directories, Dto.map_place (fun dir _ => dir) hall] at hdir
    exact List.mem_map.mp hdir
  · have houtputs := Dto.map_place
      (fun dir file => ModulePath.under s.outputDir (dir ++ [file])) hall
    rw [Settings.pathsWith, List.map_append, List.map_append, List.map_map, List.map_map]
    refine congrArg₂ _ houtputs ?_
    split
    · rw [List.map_map, List.map_map]
      rfl
    · rfl

/-- **Where no two file bases agree, a run writes no path twice, unless it writes into one
directory and an input there has the file name of a plain class.** -/
theorem nodup_paths_iff (hbases : (dm.names.map fileBase).Nodup)
    (h : generate s dm = .ok files) :
    (files.map (·.path)).Nodup ↔
      s.resourceStructure = true ∨ ∀ t ∈ s.written dm, ∀ u ∈ s.written dm, ¬t.Meets u := by
  obtain ⟨dirs, hdirs, hof, hpaths⟩ := paths_of_generate h
  rw [hpaths, nodup_map_under_iff (isBelow_of_mem_pathsWith hof), nodup_pathsWith_iff hdirs,
    nodup_paths_written_iff hbases]

end

/-- The office keeps its files apart even in one directory, next to their index. -/
theorem nodup_paths_office :
    (office.names.map fileBase).Nodup ∧
      ∃ files, generate { reExport := true } office = .ok files ∧
        (files.map (·.path)).Nodup := by
  have hbases : (office.names.map fileBase).Nodup := by decide +kernel
  have hapart : ∀ t ∈ Settings.written { reExport := true } office,
      ∀ u ∈ Settings.written { reExport := true } office, ¬t.Meets u := by
    decide +kernel
  have hok : (generate { reExport := true } office).toOption.any (fun _ => true) = true := by
    decide +kernel
  obtain ⟨files, hfiles, -⟩ := exists_ok_of_any hok
  exact ⟨hbases, files, hfiles, (nodup_paths_iff hbases hfiles).mpr (Or.inr hapart)⟩

/-- Users and what creates them, kept as records of its own. -/
def Datamodel.signUps : Datamodel where
  models := [
    { name := "User"
      fields := [{ name := "id", kind := .scalar, type := "Int", isRequired := true, isId := true }] },
    { name := "CreateUser"
      fields := [{ name := "id", kind := .scalar, type := "Int", isRequired := true, isId := true }] }]

/-- In one directory the plain class of the records lies where the users' input does. -/
theorem not_nodup_paths_signUps :
    ¬∀ (s : Settings) (dm : Datamodel) (files : List GeneratedFile),
      (dm.names.map fileBase).Nodup → generate s dm = .ok files →
        (files.map (·.path)).Nodup := by
  intro hclaim
  have hbases : (Datamodel.signUps.names.map fileBase).Nodup := by decide +kernel
  have hok : (generate {} Datamodel.signUps).toOption.any (fun files =>
      decide ¬(files.map (·.path)).Nodup) = true := by
    decide +kernel
  obtain ⟨files, hfiles, htwice⟩ := exists_ok_of_any hok
  exact of_decide_eq_true htwice (hclaim {} _ files hbases hfiles)

end DtoForge
