/-
Where outputs lie, and which of them share a file.

A file name is the file base of a model between an opening and an ending that only the kind
decides.  Neither holds a slash, so a file is one component of a path.  Among the inputs,
and among the records, file names of two kinds never meet; an input and a record can,
because the base of one model may begin with the opening that an input puts before the base
of another.
-/
import DtoForge.Dto.Naming
import DtoForge.Proofs.Code.ModulePath
import DtoForge.Proofs.Text.Words

namespace DtoForge

open ModulePath

namespace DtoKind

/-- Whether outputs of the kind are written by a caller and not read from the database. -/
def isInput : DtoKind → Bool
  | connect | create | update => true
  | plain | entity => false

/-- What a file name has before the base. -/
def opening : DtoKind → String
  | connect => "connect-"
  | create => "create-"
  | update => "update-"
  | plain | entity => ""

/-- What a module name has behind the base. -/
def ending : DtoKind → String
  | entity => ".entity"
  | _ => ".dto"

/-- The name of a file without its `.ts`. -/
def moduleName (kind : DtoKind) (name : String) : String :=
  kind.opening ++ fileBase name ++ kind.ending

theorem fileName_eq (kind : DtoKind) (name : String) :
    kind.fileName name = kind.moduleName name ++ ".ts" := by
  cases kind <;> simp [fileName, moduleName, opening, ending, String.append_assoc]

theorem stem_fileName (kind : DtoKind) (name : String) :
    stem (kind.fileName name) = kind.moduleName name := by
  rw [fileName_eq, stem_append_ts]

/-- Among the inputs and among the records, the file decides the kind and the base. -/
theorem fileName_inj {k l : DtoKind} {a b : String} (hfamily : k.isInput = l.isInput)
    (h : k.fileName a = l.fileName b) : k = l ∧ fileBase a = fileBase b := by
  have hchars := congrArg String.toList h
  -- Endings can only be told apart from behind.
  have hrev := congrArg List.reverse hchars
  cases k <;> cases l <;> simp [isInput] at hfamily <;>
    simp [fileName, String.toList_append, ← String.toList_inj] at hchars hrev ⊢ <;>
    assumption

theorem entity_fileName_ne {kind : DtoKind} {a b : String} (hkind : kind ≠ .entity) :
    entity.fileName a ≠ kind.fileName b := by
  intro h
  have hrev := congrArg (fun file => file.toList.reverse) h
  cases kind <;> simp [fileName] at hkind hrev

end DtoKind

/-! ### Paths -/

theorem slash_notMem_fileBase (name : String) : '/' ∉ (fileBase name).toList := by
  intro h
  rcases isPlain_of_mem_fileBase h with h | h
  · exact absurd h (by decide)
  · exact absurd h (by decide)

theorem dot_notMem_fileBase (name : String) : '.' ∉ (fileBase name).toList := by
  intro h
  rcases isPlain_of_mem_fileBase h with h | h
  · exact absurd h (by decide)
  · exact absurd h (by decide)

theorem isOrdinary_fileBase (name : String) : IsOrdinary (fileBase name) := by
  refine ⟨?_, ?_, slash_notMem_fileBase name⟩
  · intro h
    exact dot_notMem_fileBase name (by rw [h]; decide)
  · intro h
    exact dot_notMem_fileBase name (by rw [h]; decide)

theorem isOrdinary_moduleName (kind : DtoKind) (name : String) (after : String)
    (hafter : '/' ∉ after.toList) : IsOrdinary (kind.moduleName name ++ after) := by
  have hletter : 't' ∈ (kind.moduleName name ++ after).toList := by
    cases kind <;> simp [DtoKind.moduleName, DtoKind.ending]
  refine ⟨?_, ?_, ?_⟩
  · intro h
    rw [h] at hletter
    exact absurd hletter (by decide)
  · intro h
    rw [h] at hletter
    exact absurd hletter (by decide)
  · have hbase := slash_notMem_fileBase name
    cases kind <;> simp [DtoKind.moduleName, DtoKind.opening, DtoKind.ending, hbase, hafter]

/-! ### Outputs -/

/-- The output of one kind for one model or composite type. -/
structure Target where
  kind : DtoKind
  name : String
  deriving DecidableEq, Repr

namespace Target

/-- The class of the output. -/
def className (s : Settings) (t : Target) : String := s.className t.kind t.name

/-- The directory of the output. -/
def directory (s : Settings) (t : Target) : List String := s.directory t.kind t.name

/-- The file of the output. -/
def fileName (t : Target) : String := t.kind.fileName t.name

/-- Whether two outputs share a file. -/
def sharesFile (s : Settings) (t u : Target) : Bool :=
  t.directory s == u.directory s && t.fileName == u.fileName

/-- The path of the output's file below the output root. -/
def path (s : Settings) (t : Target) : List String :=
  t.directory s ++ [t.fileName]

theorem isOrdinary_of_mem_directory {s : Settings} {t : Target} {c : String}
    (h : c ∈ t.directory s) : IsOrdinary c := by
  unfold directory Settings.directory at h
  split at h
  · rcases List.mem_cons.mp (List.mem_of_mem_filter h) with rfl | h
    · exact isOrdinary_fileBase t.name
    · rw [List.mem_singleton.mp h]
      cases t.kind <;> exact ⟨by decide, by decide, by decide⟩
  · simp at h

theorem isOrdinary_fileName (t : Target) : IsOrdinary t.fileName := by
  rw [fileName, DtoKind.fileName_eq]
  exact isOrdinary_moduleName t.kind t.name ".ts" (by decide)

theorem isBelow_place (s : Settings) (t : Target) {file : String} (hne : file ≠ "")
    (hfile : IsOrdinary file) : IsBelow (t.directory s ++ [file]) := by
  have hlength : (t.directory s).length ≤ 2 := by
    unfold directory Settings.directory
    split
    · exact List.length_filter_le _ _
    · exact Nat.zero_le 2
  have hnamed : ∀ c ∈ t.directory s, c ≠ "" := by
    unfold directory Settings.directory
    intro c hc
    split at hc
    · simpa using (List.mem_filter.mp hc).2
    · cases hc
  refine ⟨List.concat_ne_nil _ _, ?_, ?_, ?_⟩
  · rw [List.length_append, List.length_singleton]
    omega
  · exact List.forall_mem_append.mpr ⟨hnamed, by simpa using hne⟩
  · exact List.forall_mem_append.mpr ⟨fun c => isOrdinary_of_mem_directory, by simpa using hfile⟩

theorem isBelow_path (s : Settings) (t : Target) : IsBelow (t.path s) := by
  refine t.isBelow_place s ?_ t.isOrdinary_fileName
  intro h
  have hlength := congrArg String.length h
  rw [fileName, DtoKind.fileName_eq, String.length_append] at hlength
  simp at hlength

/-- How a file in a directory names the output's file. -/
def specifier (s : Settings) (dir : List String) (t : Target) : String :=
  ModulePath.specifier dir (t.directory s) t.fileName

theorem specifier_self (s : Settings) (t : Target) :
    t.specifier s (t.directory s) = "./" ++ t.kind.moduleName t.name := by
  rw [specifier, ModulePath.specifier, route, diverge_self, fileName, DtoKind.stem_fileName]
  rfl

/-- **A specifier leads to the output's file, without its `.ts`.** -/
theorem resolve_specifier (s : Settings) (dir : List String) (t : Target) :
    resolve dir (t.specifier s dir) = some (t.directory s ++ [stem t.fileName]) := by
  refine ModulePath.resolve_specifier (fun c hc => isOrdinary_of_mem_directory hc) ?_
  simpa [fileName, DtoKind.stem_fileName] using isOrdinary_moduleName t.kind t.name "" (by simp)

theorem resolve_specifier_ts (s : Settings) (dir : List String) (t : Target) :
    resolve dir (t.specifier s dir ++ ".ts") = some (t.path s) := by
  have hname : stem t.fileName ++ ".ts" = t.fileName := by
    rw [fileName, DtoKind.stem_fileName, ← DtoKind.fileName_eq]
  rw [specifier, specifier_append, hname, path]
  exact resolve_route (fun c hc => isOrdinary_of_mem_directory hc) t.isOrdinary_fileName

theorem sharesFile_iff {s : Settings} {t u : Target} :
    t.sharesFile s u = true ↔ t.path s = u.path s := by
  rw [sharesFile, path, path, Bool.and_eq_true, beq_iff_eq, beq_iff_eq]
  constructor
  · rintro ⟨hdir, hfile⟩
    rw [hdir, hfile]
  · intro h
    exact ⟨List.append_inj_left' h rfl, by simpa using List.append_inj_right' h rfl⟩

theorem fileName_eq_of_path_eq {s : Settings} {t u : Target} (h : t.path s = u.path s) :
    t.fileName = u.fileName := by
  simpa using List.append_inj_right' h rfl

/-- Specifiers in one file are the same only for one file. -/
theorem path_eq_of_specifier_eq {s : Settings} {dir : List String} {t u : Target}
    (h : t.specifier s dir = u.specifier s dir) : t.path s = u.path s := by
  have ht := resolve_specifier_ts s dir t
  rw [h, resolve_specifier_ts s dir u] at ht
  exact (Option.some.inj ht).symm

theorem path_of_fileBase_eq {s : Settings} {kind : DtoKind} {a b : String}
    (h : fileBase a = fileBase b) :
    (Target.mk kind a).path s = (Target.mk kind b).path s := by
  unfold path directory fileName Settings.directory DtoKind.fileName
  rw [h]

/-- Among the inputs and among the records, one file holds one class, as long as the names
agree. -/
theorem className_eq_of_path_eq {s : Settings} {names : List String} {t u : Target}
    (hagree : NamesAgree names) (ht : t.name ∈ names) (hu : u.name ∈ names)
    (hfamily : t.kind.isInput = u.kind.isInput) (h : t.path s = u.path s) :
    t.className s = u.className s := by
  obtain ⟨hkind, hbase⟩ := DtoKind.fileName_inj hfamily (fileName_eq_of_path_eq h)
  have hclass := hagree _ ht _ hu hbase
  unfold className Settings.className
  rw [hkind, hclass]

end Target

end DtoForge
