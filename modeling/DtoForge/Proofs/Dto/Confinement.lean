/-
What names of a data model cannot do.

Names come from a document and may hold anything: slashes, dots, quotes, line breaks, or
nothing at all.  Of a name, only its words in lower case get into a path, and these are made
of plain characters.  So a path leads down from the output root, and a specifier ends neither
the quotes that it is put in nor their line.
-/
import DtoForge.Proofs.Dto.Collision
import DtoForge.Proofs.Dto.Import

namespace DtoForge

/-! ### Texts in quotes -/

/-- What ends a text in quotes or the line that it is on, or takes from the quotes what they
mean. -/
def closers : List Char :=
  "'\"`\\\n\x0b\x0c\r\x85\u2028\u2029".toList

/-- A text that can be put in quotes as it is. -/
def IsQuotable (text : String) : Prop :=
  ∀ c ∈ text.toList, c ∉ closers

-- The instance is named because search may find one that goes through all characters there are.
instance (text : String) : Decidable (IsQuotable text) :=
  List.decidableBAll (· ∉ closers) text.toList

theorem isQuotable_append {a b : String} (ha : IsQuotable a) (hb : IsQuotable b) :
    IsQuotable (a ++ b) := by
  intro c hc
  rw [String.toList_append] at hc
  exact (List.mem_append.mp hc).elim (ha c) (hb c)

theorem isQuotable_intercalate {segments : List String} (h : ∀ s ∈ segments, IsQuotable s) :
    IsQuotable ("/".intercalate segments) := by
  intro c hc
  rw [ModulePath.toList_intercalate] at hc
  rcases Text.mem_intercalate hc with rfl | ⟨piece, hpiece, hc⟩
  · decide
  · obtain ⟨segment, hsegment, rfl⟩ := List.mem_map.mp hpiece
    exact h segment hsegment c hc

/-! ### Names -/

theorem notMem_closers_of_isPlain {c : Char} (h : IsPlain c) : c ∉ closers := by
  have hclosers : closers.all (fun d => !decide (IsPlain d)) = true := by decide
  intro hc
  simpa [h] using List.all_eq_true.mp hclosers c hc

theorem isQuotable_fileBase (name : String) : IsQuotable (fileBase name) := by
  intro c hc
  rcases isPlain_of_mem_fileBase hc with rfl | hplain
  · decide
  · exact notMem_closers_of_isPlain hplain

theorem DtoKind.isQuotable_moduleName (kind : DtoKind) (name : String) :
    IsQuotable (kind.moduleName name) := by
  refine isQuotable_append (isQuotable_append ?_ (isQuotable_fileBase name)) ?_
  · cases kind <;> decide
  · cases kind <;> decide

namespace Target

variable {s : Settings}

theorem isQuotable_of_mem_directory {t : Target} {c : String} (h : c ∈ t.directory s) :
    IsQuotable c := by
  unfold directory Settings.directory at h
  split at h
  · rcases List.mem_cons.mp (List.mem_of_mem_filter h) with rfl | h
    · exact isQuotable_fileBase t.name
    · rw [List.mem_singleton.mp h]
      cases t.kind <;> decide
  · cases h

theorem isQuotable_specifier (dir : List String) (t : Target) :
    IsQuotable (t.specifier s dir) := by
  refine isQuotable_intercalate fun segment hsegment => ?_
  rcases List.mem_append.mp hsegment with hroute | hlast
  · rcases ModulePath.mem_route hroute with rfl | rfl | hdirectory
    · decide
    · decide
    · exact isQuotable_of_mem_directory hdirectory
  · rw [List.mem_singleton.mp hlast, fileName, DtoKind.stem_fileName]
    exact t.kind.isQuotable_moduleName t.name

end Target

/-! ### Statements -/

section

variable {s : Settings} {dm : Datamodel}

theorem isQuotable_of_mem_packages {p : String} (h : p ∈ packages) : IsQuotable p := by
  have hpackages : ∀ q ∈ packages, IsQuotable q := by decide +kernel
  exact hpackages p h

/-- What a file imports from can be quoted, be it another file or a package. -/
theorem Dto.IsOf.isQuotable_source {m : Model} {kind : DtoKind} {d : Dto}
    (h : IsOf s dm m kind d) : ∀ i ∈ d.imports, IsQuotable i.source := by
  intro i hi
  by_cases hrelative : i.isRelative = true
  · obtain ⟨name, rest, hnames⟩ := List.exists_cons_of_ne_nil (h.names_ne_nil i hi hrelative)
    obtain ⟨t, -, -, hsource, -⟩ :=
      h.imports_iff.mp ⟨i, hi, hrelative, rfl, hnames ▸ List.mem_cons_self⟩
    rw [← hsource]
    exact t.isQuotable_specifier d.directory
  · obtain ⟨parts, rfl, -⟩ := h
    rw [Dto.imports_ofParts] at hi
    rcases List.mem_append.mp hi with hpackage | hlocal
    · exact isQuotable_of_mem_packages (source_mem_packages hpackage)
    · exact absurd (forall_merge_localImports i hlocal).1 hrelative

/-- What an index exports from can be quoted. -/
theorem isQuotable_of_mem_modulesIn {dir : List String} :
    ∀ module ∈ s.modulesIn dm dir, IsQuotable module := by
  intro module hmodule
  obtain ⟨t, -, rfl⟩ := List.mem_map.mp hmodule
  exact isQuotable_append (by decide) (t.kind.isQuotable_moduleName t.name)

end

/-! ### A whole run -/

/-- The path of a file that lies below a root: the root and then components that lead down,
whether they are written behind it or joined to it one by one. -/
def IsBelowRoot (root path : String) : Prop :=
  ∃ components, ModulePath.IsBelow components ∧ path = ModulePath.under root components ∧
    path = components.foldl ModulePath.join root

/-- Files with the statements that they are made of: imports in those of the outputs, and
exports in the indexes. -/
structure IsQuoted (s : Settings) (dm : Datamodel) (files : List GeneratedFile) (dtos : List Dto)
    (dirs : List (List String)) : Prop where
  files_eq : files = dtos.map (Dto.file s) ++ dirs.map (s.index dm)
  imports : ∀ d ∈ dtos, ∀ i ∈ d.imports, IsQuotable i.source
  exports : ∀ dir ∈ dirs, ∀ module ∈ s.modulesIn dm dir, IsQuotable module

section

variable {s : Settings} {dm : Datamodel} {files : List GeneratedFile}

/-- **Whatever the names in a data model are, a run writes below the output root, and its files
name each other by texts that can be quoted.** -/
theorem confined_of_generate (h : generate s dm = .ok files) :
    (∀ f ∈ files, IsBelowRoot s.outputDir f.path) ∧
      ∃ dtos dirs, Dto.all s dm (selectedModels s dm) = .ok dtos ∧
        IsQuoted s dm files dtos dirs := by
  constructor
  · intro f hf
    obtain ⟨dirs, -, hof, hpaths⟩ := paths_of_generate h
    have hpath : f.path ∈ files.map (·.path) := List.mem_map_of_mem hf
    rw [hpaths] at hpath
    obtain ⟨components, hcomponents, heq⟩ := List.mem_map.mp hpath
    have hbelow := isBelow_of_mem_pathsWith hof components hcomponents
    refine ⟨components, hbelow, heq.symm, ?_⟩
    rw [hbelow.foldl_join_eq_under, heq]
  · obtain ⟨dtos, hall, rfl⟩ := generate_eq_ok h
    refine ⟨dtos, if s.reExport then directories dtos else [], hall, ?_, ?_, ?_⟩
    · simp only [apply_ite (List.map _), List.map_nil,
        List.map_congr_left fun dir _ => Dto.indexOf_eq hall dir]
    · intro d hd
      obtain ⟨o, -, hof⟩ := exists_of_forall₂_right (Dto.matches_all hall) d hd
      exact hof.isQuotable_source
    · exact fun dir _ => isQuotable_of_mem_modulesIn

end

/-- Models whose names would leave the output root, end a quoted text, or name nothing. -/
def hostile : Datamodel where
  models := [
    { name := "../../etc/passwd"
      fields := [
        { name := "id", kind := .scalar, type := "Int", isRequired := true, isId := true },
        { name := "next", kind := .object, type := "'; evil()\n//", relationName := some "next" }] },
    { name := "'; evil()\n//"
      fields := [{ name := "id", kind := .scalar, type := "Int", isRequired := true, isId := true }] },
    { name := ""
      fields := [{ name := "id", kind := .scalar, type := "Int", isRequired := true, isId := true }] }]

/-- They are written below the root like all others, with a directory and an index for each. -/
theorem confined_of_generate_hostile :
    ∃ files, generate officeSettings hostile = .ok files ∧
      "out/etc-passwd/entities/etc-passwd.entity.ts" ∈ files.map (·.path) ∧
        "out/dto/.dto.ts" ∈ files.map (·.path) ∧
          (∀ f ∈ files, IsBelowRoot officeSettings.outputDir f.path) ∧
            ∃ dtos dirs, Dto.all officeSettings hostile (selectedModels officeSettings hostile)
              = .ok dtos ∧ IsQuoted officeSettings hostile files dtos dirs := by
  have hok : (generate officeSettings hostile).toOption.any (fun files =>
      decide ("out/etc-passwd/entities/etc-passwd.entity.ts" ∈ files.map (·.path) ∧
        "out/dto/.dto.ts" ∈ files.map (·.path))) = true := by
    decide +kernel
  obtain ⟨files, hfiles, hpaths⟩ := exists_ok_of_any hok
  obtain ⟨hpasswd, hnameless⟩ := of_decide_eq_true hpaths
  exact ⟨files, hfiles, hpasswd, hnameless, confined_of_generate hfiles⟩

end DtoForge
