/-
Which models are selected by name.

Names are given as a list, kept as one text with commas between them, and cut apart again where
the text is read, without the white space around them.  So the names come back as they were given
as long as no comma is in them and no white space is at their ends.

The two lists are not read alike.  The empty text and a star stand for all models where models are
taken, and for none where they are left out.  The text of a list of names is neither: a trimmed
text that is empty or a star has no comma in it, so it is read as one name, and that is no name a
list may hold.
-/
import DtoForge.Dto.Generation
import DtoForge.Proofs.Settings.Change
import DtoForge.Proofs.Text.Pieces
import DtoForge.Proofs.Text.Trim

namespace DtoForge

namespace Settings

/-! ### Lists of names -/

/-- A name that can stand in a list of names. -/
structure IsListable (name : String) : Prop where
  filled : name ≠ ""
  comma : ',' ∉ name.toList
  begins : ∀ c ∈ name.toList.head?, isBlank c = false
  ends : ∀ c ∈ name.toList.getLast?, isBlank c = false
  star : name ≠ "*"

instance : DecidablePred IsListable := fun name =>
  decidable_of_iff
    (name ≠ "" ∧ ',' ∉ name.toList ∧ name.toList.head?.all (!isBlank ·) = true ∧
      name.toList.getLast?.all (!isBlank ·) = true ∧ name ≠ "*") <| by
    simp only [Option.all_eq_true, Bool.not_eq_true']
    exact ⟨fun ⟨hfilled, hcomma, hbegins, hends, hstar⟩ => ⟨hfilled, hcomma, hbegins, hends, hstar⟩,
      fun h => ⟨h.filled, h.comma, h.begins, h.ends, h.star⟩⟩

/-- What is read from the text of a list is the list. -/
theorem namesIn_intercalate {names : List String} (hne : names ≠ [])
    (h : ∀ n ∈ names, IsListable n) : namesIn (",".intercalate names) = names := by
  have hpieces : ∀ p ∈ names.map String.toList, ',' ∉ p := by
    intro p hp
    obtain ⟨n, hn, rfl⟩ := List.mem_map.mp hp
    exact (h n hn).comma
  have hsplit : Text.splitAt ',' (",".intercalate names).toList = names.map String.toList := by
    rw [String.toList_intercalate]
    exact Text.splitAt_intercalate (by simpa using hne) hpieces
  have htrim : ∀ n ∈ names, String.ofList (Text.trim n.toList) = n := by
    intro n hn
    rw [Text.trim_eq_self (h n hn).begins (h n hn).ends, String.ofList_toList]
  calc
    namesIn (",".intercalate names)
        = names.map fun n => String.ofList (Text.trim n.toList) := by
          rw [namesIn, hsplit, List.map_map]
          rfl
    _ = names.map id := List.map_congr_left htrim
    _ = names := List.map_id names

/-- A text that stands for all would be read as one name, and that is none that a list holds. -/
theorem namesIn_of_isAll {list : String} (h : isAll list = true) :
    namesIn list = [""] ∨ namesIn list = ["*"] := by
  have hall : Text.trim list.toList = [] ∨ Text.trim list.toList = ['*'] := by
    simpa [isAll] using h
  have hcomma : ',' ∉ Text.trim list.toList := by
    rcases hall with hall | hall <;> rw [hall] <;> decide
  have hone : namesIn list = [String.ofList (Text.trim list.toList)] := by
    have hcut : ∀ c ∈ list.toList, (c == ',') = false := by
      intro c hc
      rw [beq_eq_false_iff_ne]
      rintro rfl
      exact hcomma (Text.mem_trim_of_mem (by decide) hc)
    rw [namesIn, Text.splitAt, Text.splitWhere_eq_singleton hcut]
    rfl
  rw [hone]
  rcases hall with hall | hall <;> rw [hall]
  · exact Or.inl rfl
  · exact Or.inr rfl

/-- So the text of a list does not stand for all. -/
theorem isAll_intercalate {names : List String} (hne : names ≠ [])
    (h : ∀ n ∈ names, IsListable n) : isAll (",".intercalate names) = false := by
  rw [Bool.eq_false_iff]
  intro hall
  rcases namesIn_of_isAll hall with hnames | hnames <;> rw [namesIn_intercalate hne h] at hnames
  · exact (h "" (by simp [hnames])).filled rfl
  · exact (h "*" (by simp [hnames])).star rfl

/-- The empty list leaves nothing out, for the name that is read from it is empty. -/
theorem filter_namesIn_intercalate {names : List String} (h : ∀ n ∈ names, IsListable n) :
    (namesIn (",".intercalate names)).filter (· != "") = names := by
  cases names with
  | nil => decide +kernel
  | cons n rest =>
      rw [namesIn_intercalate (List.cons_ne_nil n rest) h]
      exact List.filter_eq_self.mpr fun m hm => by simpa using (h m hm).filled

theorem selects_iff {s : Settings} {exc : List String} (hexc : ∀ n ∈ exc, IsListable n)
    (hs : s.excludeModels = ",".intercalate exc) (name : String) :
    s.selects name = true ↔
      (isAll s.includeModels = true ∨ name ∈ namesIn s.includeModels) ∧ name ∉ exc := by
  rw [selects, hs, filter_namesIn_intercalate hexc]
  simp

/-! ### The lists that changes leave -/

/-- Of the changes of one kind, the last one is to `names`. -/
def IsLast (kind : List String → Change) (names : List String) (changes : List Change) : Prop :=
  ∃ before after, changes = before ++ kind names :: after ∧ ∀ others, kind others ∉ after

/-- Only changes of this kind name the setting. -/
def IsNamedBy (kind : List String → Change) (k : Setting) : Prop :=
  ∀ c : Change, c.value? k = none ∨ ∃ names, c = kind names

theorem isNamedBy_includeModels : IsNamedBy .includeModels .includeModels := by
  intro c
  cases c with
  | includeModels names => exact Or.inr ⟨names, rfl⟩
  | _ => exact Or.inl rfl

theorem isNamedBy_excludeModels : IsNamedBy .excludeModels .excludeModels := by
  intro c
  cases c with
  | excludeModels names => exact Or.inr ⟨names, rfl⟩
  | _ => exact Or.inl rfl

theorem IsNamedBy.unnamed {kind : List String → Change} {k : Setting} (hkind : IsNamedBy kind k)
    {changes : List Change} (h : ∀ names, kind names ∉ changes) :
    ∀ c ∈ changes, c.value? k = none := by
  intro c hc
  rcases hkind c with hnone | ⟨names, rfl⟩
  · exact hnone
  · exact absurd hc (h names)

theorem IsLast.get_ofChanges {kind : List String → Change} {names : List String}
    {changes : List Change} (h : IsLast kind names changes) {k : Setting}
    (hkind : IsNamedBy kind k) {x : k.kind.Value} (hx : (kind names).value? k = some x)
    (path : String) : (ofChanges path changes).get k = x := by
  obtain ⟨before, after, hcut, hafter⟩ := h
  exact (lastWins_ofChanges path changes).named k before _ after x hcut hx (hkind.unnamed hafter)

theorem excludeModels_ofChanges {changes : List Change} {names : List String}
    (h : IsLast .excludeModels names changes) (path : String) :
    (ofChanges path changes).excludeModels = ",".intercalate names :=
  h.get_ofChanges isNamedBy_excludeModels rfl path

theorem includeModels_ofChanges {changes : List Change} {names : List String}
    (h : IsLast .includeModels names changes) (path : String) :
    (ofChanges path changes).includeModels = ",".intercalate names :=
  h.get_ofChanges isNamedBy_includeModels rfl path

theorem includeModels_ofChanges_of_none {changes : List Change}
    (h : ∀ names, Change.includeModels names ∉ changes) (path : String) :
    (ofChanges path changes).includeModels = "*" :=
  (lastWins_ofChanges path changes).unnamed .includeModels (by decide)
    (isNamedBy_includeModels.unnamed h)

end Settings

/-! ### The models that are selected -/

/-- **The models that are included and not excluded are selected, and no others.**

They stand in the order of the data model, each as often as there.  If no names were included, all
models are but for the excluded ones. -/
theorem selectedModels_ofChanges (path : String) (dm : Datamodel) {changes : List Change}
    {exc : List String} (hlast : Settings.IsLast .excludeModels exc changes)
    (hexc : ∀ n ∈ exc, Settings.IsListable n) :
    (∀ inc, Settings.IsLast .includeModels inc changes → inc ≠ [] →
        (∀ n ∈ inc, Settings.IsListable n) →
          selectedModels (Settings.ofChanges path changes) dm
            = dm.models.filter fun m => m.name ∈ inc ∧ m.name ∉ exc) ∧
      ((∀ names, Change.includeModels names ∉ changes) →
        selectedModels (Settings.ofChanges path changes) dm
          = dm.models.filter fun m => m.name ∉ exc) := by
  have hselects := Settings.selects_iff hexc (Settings.excludeModels_ofChanges hlast path)
  constructor
  · intro inc hincLast hne hinc
    refine List.filter_congr fun m _ => ?_
    rw [Bool.eq_iff_iff, hselects, Settings.includeModels_ofChanges hincLast path,
      Settings.isAll_intercalate hne hinc, Settings.namesIn_intercalate hne hinc]
    simp
  · intro hnone
    have hall : Settings.isAll "*" = true := by decide +kernel
    refine List.filter_congr fun m _ => ?_
    rw [Bool.eq_iff_iff, hselects, Settings.includeModels_ofChanges_of_none hnone path, hall]
    simp

/-- Accounts, one name of which is declared twice. -/
def Datamodel.accounts : Datamodel where
  models := [{ name := "User" }, { name := "Log" }, { name := "Post" }, { name := "User" }]

/-- Names are included, others are excluded, and then other names are included. -/
def accountChanges : List Change :=
  [.includeModels ["Log"], .excludeModels ["Post"], .includeModels ["Post", "User"]]

/-- The names that were included first do not count, and a name may be in both lists. -/
theorem selectedModels_ofChanges_accounts :
    Settings.IsLast .excludeModels ["Post"] accountChanges ∧
      (∀ n ∈ ["Post"], Settings.IsListable n) ∧
      Settings.IsLast .includeModels ["Post", "User"] accountChanges ∧
      ["Post", "User"] ≠ [] ∧ (∀ n ∈ ["Post", "User"], Settings.IsListable n) ∧
      (selectedModels (Settings.ofChanges "" accountChanges) .accounts).map (·.name)
        = ["User", "User"] ∧
      Settings.IsLast .excludeModels ["Post"] [.excludeModels ["Post"]] ∧
      (∀ names, Change.includeModels names ∉ [.excludeModels ["Post"]]) ∧
      (selectedModels (Settings.ofChanges "" [.excludeModels ["Post"]]) .accounts).map (·.name)
        = ["User", "Log", "User"] := by
  have hexcluded : ∀ n ∈ ["Post"], Settings.IsListable n := by decide
  have hincluded : ∀ n ∈ ["Post", "User"], Settings.IsListable n := by decide
  have hlast : Settings.IsLast .excludeModels ["Post"] accountChanges :=
    ⟨[.includeModels ["Log"]], [.includeModels ["Post", "User"]], rfl, by simp⟩
  have hincludedLast : Settings.IsLast .includeModels ["Post", "User"] accountChanges :=
    ⟨[.includeModels ["Log"], .excludeModels ["Post"]], [], rfl, by simp⟩
  have honly : Settings.IsLast .excludeModels ["Post"] [.excludeModels ["Post"]] :=
    ⟨[], [], rfl, by simp⟩
  have hnone : ∀ names, Change.includeModels names ∉ [Change.excludeModels ["Post"]] := by simp
  refine ⟨hlast, hexcluded, hincludedLast, by decide, hincluded, ?_, honly, hnone, ?_⟩
  · rw [(selectedModels_ofChanges "" .accounts hlast hexcluded).1 _ hincludedLast (by decide)
      hincluded]
    decide
  · rw [(selectedModels_ofChanges "" .accounts honly hexcluded).2 hnone]
    decide

end DtoForge
