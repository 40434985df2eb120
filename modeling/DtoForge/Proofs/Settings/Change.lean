/-
Settings after changes.

A change names settings and says what to set them to.  One of the changes names two settings, and
two of them can only switch a setting on.  What a change does is told setting by setting: a setting
that it names has the value that it says, and every other one keeps its own.

This step is all that runs of changes need.  After a run a setting has what the last change that
names it says, and its default if none does; so changes that name nothing in common can change
places, and saying the same thing once more does nothing.
-/
import DtoForge.Proofs.Settings.Key
import DtoForge.Settings.Change
import DtoForge.Workspace.Schema

namespace DtoForge

/-! ### What a change names -/

namespace Change

/-- What a change sets a setting to, if it names it. -/
def value? : Change → (k : Setting) → Option k.kind.Value
  | outputDir path, .outputDir => some path
  | includeModels names, .includeModels => some (",".intercalate names)
  | excludeModels names, .excludeModels => some (",".intercalate names)
  | outputType form, .outputType => some form
  | classValidation isOn, .classValidation => some isOn
  | noDependencies isOn, .noDependencies => some isOn
  | dtoSuffix suffix, .dtoSuffix => some suffix
  | entityAffixes before _, .entityPrefix => some before
  | entityAffixes _ after, .entitySuffix => some after
  | resourceStructure, .resourceStructure => some true
  | reExport, .reExport => some true
  | _, _ => none

/-- The changes name no setting in common. -/
def Apart (c d : Change) : Prop :=
  ∀ k, c.value? k = none ∨ d.value? k = none

theorem value?_schemaFile (c : Change) : c.value? .schemaFile = none := by
  cases c <;> rfl

theorem exists_last_or_unnamed (k : Setting) (changes : List Change) :
    (∀ c ∈ changes, c.value? k = none) ∨
      ∃ before c after x, changes = before ++ c :: after ∧ c.value? k = some x ∧
        ∀ d ∈ after, d.value? k = none := by
  induction changes with
  | nil => exact Or.inl (by simp)
  | cons c changes ih =>
      rcases ih with hunnamed | ⟨before, d, after, x, rfl, hx, hafter⟩
      · cases hc : c.value? k with
        | none => exact Or.inl (List.forall_mem_cons.mpr ⟨hc, hunnamed⟩)
        | some x => exact Or.inr ⟨[], c, changes, x, rfl, hc, hunnamed⟩
      · exact Or.inr ⟨c :: before, d, after, x, rfl, hx, hafter⟩

end Change

namespace Settings

/-! ### One change -/

/-- Settings are told by their values. -/
theorem eq_of_get {s t : Settings} (h : ∀ k, s.get k = t.get k) : s = t := by
  have hget : s.get = t.get := funext h
  calc
    s = ofValues s.get := rfl
    _ = ofValues t.get := by rw [hget]
    _ = t := rfl

variable {s : Settings} {c d : Change} {k : Setting}

theorem get_apply (s : Settings) (c : Change) (k : Setting) :
    (s.apply c).get k = (c.value? k).getD (s.get k) := by
  cases c <;> cases k <;> rfl

theorem get_apply_of_named {x : k.kind.Value} (h : c.value? k = some x) (s : Settings) :
    (s.apply c).get k = x := by
  rw [get_apply, h, Option.getD_some]

theorem get_apply_of_unnamed (h : c.value? k = none) (s : Settings) :
    (s.apply c).get k = s.get k := by
  rw [get_apply, h, Option.getD_none]

theorem apply_eq_self (h : ∀ k, ∀ x ∈ c.value? k, s.get k = x) : s.apply c = s := by
  refine eq_of_get fun k => ?_
  cases hc : c.value? k with
  | none => exact get_apply_of_unnamed hc s
  | some x => rw [get_apply_of_named hc, h k x hc]

/-- Changes that name nothing in common can change places. -/
theorem apply_comm (h : c.Apart d) (s : Settings) :
    (s.apply c).apply d = (s.apply d).apply c := by
  refine eq_of_get fun k => ?_
  rcases h k with hc | hd
  · rw [get_apply, get_apply_of_unnamed hc, get_apply_of_unnamed hc, get_apply]
  · rw [get_apply_of_unnamed hd, get_apply, get_apply, get_apply_of_unnamed hd]

/-! ### A run of changes -/

@[simp] theorem applyAll_nil (s : Settings) : s.applyAll [] = s := rfl

@[simp] theorem applyAll_cons (s : Settings) (c : Change) (changes : List Change) :
    s.applyAll (c :: changes) = (s.apply c).applyAll changes := rfl

@[simp] theorem applyAll_append (s : Settings) (before after : List Change) :
    s.applyAll (before ++ after) = (s.applyAll before).applyAll after :=
  List.foldl_append ..

theorem get_applyAll_of_unnamed :
    ∀ {changes : List Change}, (∀ c ∈ changes, c.value? k = none) →
      ∀ s : Settings, (s.applyAll changes).get k = s.get k := by
  intro changes
  induction changes with
  | nil => intro _ s; rfl
  | cons c changes ih =>
      intro h s
      rw [applyAll_cons, ih fun d hd => h d (List.mem_cons_of_mem c hd),
        get_apply_of_unnamed (h c (by simp))]

theorem get_applyAll_of_last {before after : List Change} {x : k.kind.Value}
    (hc : c.value? k = some x) (hafter : ∀ d ∈ after, d.value? k = none) (s : Settings) :
    (s.applyAll (before ++ c :: after)).get k = x := by
  rw [applyAll_append, applyAll_cons, get_applyAll_of_unnamed hafter, get_apply_of_named hc]

/-- Settings for a schema in which every setting has what the last change that names it says. -/
structure LastWins (path : String) (changes : List Change) (s : Settings) : Prop where
  schemaFile : s.get .schemaFile = path
  named : ∀ k before c after x, changes = before ++ c :: after → c.value? k = some x →
    (∀ d ∈ after, d.value? k = none) → s.get k = x
  unnamed : ∀ k, k ≠ .schemaFile → (∀ c ∈ changes, c.value? k = none) →
    s.get k = ({} : Settings).get k

theorem LastWins.eq {path : String} {changes : List Change} {s t : Settings}
    (hs : LastWins path changes s) (ht : LastWins path changes t) : s = t := by
  refine eq_of_get fun k => ?_
  by_cases hk : k = .schemaFile
  · subst hk
    rw [hs.schemaFile, ht.schemaFile]
  · rcases Change.exists_last_or_unnamed k changes with hnone | ⟨before, c, after, x, h, hx, hafter⟩
    · rw [hs.unnamed k hk hnone, ht.unnamed k hk hnone]
    · rw [hs.named k before c after x h hx hafter, ht.named k before c after x h hx hafter]

/-- The settings that changes make of the defaults for a schema. -/
def ofChanges (path : String) (changes : List Change) : Settings :=
  (ofSchema path).applyAll changes

theorem lastWins_ofChanges (path : String) (changes : List Change) :
    LastWins path changes (ofChanges path changes) where
  schemaFile := get_applyAll_of_unnamed (fun c _ => c.value?_schemaFile) _
  named := by
    rintro k before c after x rfl hx hafter
    exact get_applyAll_of_last hx hafter _
  unnamed := by
    intro k hk hnone
    rw [ofChanges, get_applyAll_of_unnamed hnone]
    cases k with
    | schemaFile => exact absurd rfl hk
    | _ => rfl

/-- Nothing is changed by saying the same thing again, as long as nothing else was said about it. -/
theorem applyAll_repeat {between : List Change} (h : ∀ d ∈ between, c.Apart d) (s : Settings) :
    ((s.apply c).applyAll between).apply c = (s.apply c).applyAll between := by
  refine apply_eq_self fun k x hx => ?_
  have hbetween : ∀ d ∈ between, d.value? k = none := by
    intro d hd
    refine (h d hd k).resolve_left ?_
    rw [Option.mem_def.mp hx]
    exact Option.some_ne_none x
  rw [get_applyAll_of_unnamed hbetween, get_apply_of_named hx]

/-- **Changes are independent of each other, and of those that name a setting the last one wins.**

After any changes each setting has what the last change that names it says, or its default if none
does, and this tells the settings.  Changes that name nothing in common can change places, saying
the same thing again does nothing, and a change leaves alone what it does not name.  What is
generated with the settings is the same whether they are checked first or not, if they are found
usable; otherwise the check says why not. -/
theorem independent_changes (path : String) (changes : List Change) :
    (∀ s, LastWins path changes s ↔ s = ofChanges path changes) ∧
      (∀ c d after, c.Apart d →
        ofChanges path (changes ++ c :: d :: after)
          = ofChanges path (changes ++ d :: c :: after)) ∧
      (∀ c between after, (∀ d ∈ between, c.Apart d) →
        ofChanges path (changes ++ c :: (between ++ c :: after))
          = ofChanges path (changes ++ c :: (between ++ after))) ∧
      (∀ c k, c.value? k = none →
        (ofChanges path (changes ++ [c])).get k = (ofChanges path changes).get k) ∧
      ∀ ws : Workspace,
        (ws.check (ofChanges path changes) = .ok () →
          ws.checkedGenerate (ofChanges path changes) = ws.generate (ofChanges path changes)) ∧
        ∀ e, ws.check (ofChanges path changes) = .error e →
          ws.checkedGenerate (ofChanges path changes) = .error e := by
  refine ⟨fun s => ⟨fun hs => hs.eq (lastWins_ofChanges path changes), ?_⟩, ?_, ?_, ?_,
    fun ws => ⟨fun hcheck => ?_, fun e hcheck => ?_⟩⟩
  · rintro rfl
    exact lastWins_ofChanges path changes
  · intro c d after h
    simp only [ofChanges, applyAll_append, applyAll_cons]
    rw [apply_comm h]
  · intro c between after h
    simp only [ofChanges, applyAll_append, applyAll_cons]
    rw [applyAll_repeat h]
  · intro c k hc
    simp only [ofChanges, applyAll_append, applyAll_cons, applyAll_nil]
    exact get_apply_of_unnamed hc _
  · rw [Workspace.checkedGenerate, hcheck]
    rfl
  · rw [Workspace.checkedGenerate, hcheck]
    rfl

/-! ### Some changes -/

/-- Entities are given a suffix, and then a prefix instead. -/
def recordChanges : List Change :=
  [.entityAffixes "" "Record", .reExport, .entityAffixes "Db" "", .dtoSuffix "Input"]

/-- A schema that declares nothing. -/
def recordFiles : Workspace := fun path =>
  if path = "schema.json" then .file [123, 125] else .missing

/-- The second affixes take the place of the first, the suffix that is empty included. -/
theorem independent_changes_record :
    LastWins "schema.json" recordChanges
        { schemaFile := "schema.json", entityPrefix := "Db", dtoSuffix := "Input"
          reExport := true } ∧
      Change.Apart (.dtoSuffix "") (.entityAffixes "" "Row") ∧
      ofChanges "schema.json" (recordChanges ++ [.dtoSuffix "", .entityAffixes "" "Row"])
        = ofChanges "schema.json" (recordChanges ++ [.entityAffixes "" "Row", .dtoSuffix ""]) ∧
      (∀ d ∈ [Change.reExport], Change.Apart (.dtoSuffix "") d) ∧
      ofChanges "schema.json" (recordChanges ++ [.dtoSuffix "", .reExport, .dtoSuffix ""])
        = ofChanges "schema.json" (recordChanges ++ [.dtoSuffix "", .reExport]) ∧
      recordFiles.check (ofChanges "schema.json" recordChanges) = .ok () ∧
      recordFiles.checkedGenerate (ofChanges "schema.json" recordChanges)
        = recordFiles.generate (ofChanges "schema.json" recordChanges) ∧
      recordFiles.generate (ofChanges "schema.json" recordChanges) = .ok [] := by
  obtain ⟨hlast, hswap, hrepeat, -, hgenerate⟩ := independent_changes "schema.json" recordChanges
  have hapart : Change.Apart (.dtoSuffix "") (.entityAffixes "" "Row") := by
    intro k
    cases k <;> simp [Change.value?]
  have hbetween : ∀ d ∈ [Change.reExport], Change.Apart (.dtoSuffix "") d := by
    intro d hd k
    rw [List.mem_singleton.mp hd]
    cases k <;> simp [Change.value?]
  have hcheck : recordFiles.check (ofChanges "schema.json" recordChanges) = .ok () := rfl
  exact ⟨(hlast _).mpr rfl, hapart, hswap _ _ [] hapart, hbetween, hrepeat _ _ [] hbetween, hcheck,
    (hgenerate recordFiles).1 hcheck, by with_unfolding_all rfl⟩

end Settings

end DtoForge
