/-
Settings in layers: defaults, a file, and the environment.

The environment is heard variable by variable, and each changes what stands under one key
alone.  A variable that sets a setting puts its text there, and since a setting is set once at
most, nothing that is heard later takes it away.  What no variable leads to stays as the file
has it, and what the file leaves out has its default.  Settings are then read key by key, so
the layers act on each setting by itself.

Texts are stretched further where the environment has a say than in a file on its own.  In a
file whose values are of the kinds of their settings there is nothing to stretch.
-/
import DtoForge.Proofs.Settings.Reading

namespace DtoForge

namespace Settings

/-! ### Names of variables -/

/-- The name marks a variable as one for settings, in any case. -/
def IsMarked (name : String) : Prop :=
  environmentMark.toList <+: name.toList.map Char.toLower

instance (name : String) : Decidable (IsMarked name) :=
  inferInstanceAs (Decidable (_ <+: _))

/-- The variable of this name is heard at an entry: the key behind its mark begins there. -/
def LeadsTo (name first : String) : Prop :=
  ∃ key, keyOf? name = some key ∧ (path key).1 = first

theorem keyOf?_eq_some_iff {name : String} {key : List Char} :
    keyOf? name = some key ↔
      name.toList.map Char.toLower = environmentMark.toList ++ key := by
  rw [keyOf?, List.isPrefixOf?_eq_some_iff_append_eq]
  exact eq_comm

theorem keyOf?_of_not_isMarked {name : String} (h : ¬IsMarked name) : keyOf? name = none := by
  cases hkey : keyOf? name with
  | none => rfl
  | some key => exact absurd ⟨key, (keyOf?_eq_some_iff.mp hkey).symm⟩ h

end Settings

/-- The variable of this name sets the setting: in lower case the name is the mark of settings
and the key. -/
def Setting.IsSetBy (k : Setting) (name : String) : Prop :=
  name.toList.map Char.toLower = Settings.environmentMark.toList ++ k.key.toList

instance (k : Setting) (name : String) : Decidable (k.IsSetBy name) :=
  inferInstanceAs (Decidable (_ = _))

namespace Setting

variable {k : Setting} {name : String}

theorem IsSetBy.keyOf?_eq (h : k.IsSetBy name) :
    Settings.keyOf? name = some k.key.toList :=
  Settings.keyOf?_eq_some_iff.mpr h

theorem path_key (k : Setting) : Settings.path k.key.toList = (k.key, []) := by
  cases k <;> decide +kernel

/-- A variable that sets a setting is heard there and nowhere else. -/
theorem IsSetBy.eq_of_leadsTo (h : k.IsSetBy name) {l : Setting}
    (hl : Settings.LeadsTo name l.key) : l = k := by
  obtain ⟨key, hkey, hfirst⟩ := hl
  rw [h.keyOf?_eq, Option.some.injEq] at hkey
  rw [← hkey, path_key] at hfirst
  exact key_injective hfirst.symm

theorem IsSetBy.leadsTo (h : k.IsSetBy name) : Settings.LeadsTo name k.key :=
  ⟨_, h.keyOf?_eq, by rw [path_key]⟩

end Setting

namespace Settings

/-! ### Hearing one variable -/

section

variable {key k : String} {v : Toml} {entries : Entries}

theorem lookup_put (key k : String) (v : Toml) (entries : Entries) :
    (put key v entries).lookup k = if k = key then some v else entries.lookup k := by
  induction entries with
  | nil => by_cases h : k = key <;> simp [put, h]
  | cons e entries ih =>
      obtain ⟨first, w⟩ := e
      rw [put]
      by_cases hfirst : first = key
      · rw [if_pos hfirst, hfirst, List.lookup_cons, List.lookup_cons]
        cases hk : k == key with
        | true => rw [if_pos (eq_of_beq hk)]
        | false => rw [if_neg (ne_of_beq_false hk)]
      · rw [if_neg hfirst, List.lookup_cons, List.lookup_cons, ih]
        cases hk : k == first with
        | true => exact (if_neg fun hkey => hfirst (eq_of_beq hk ▸ hkey)).symm
        | false => rfl

theorem lookup_putUnder_of_ne {keys : List String} (h : k ≠ key) :
    (putUnder v key keys entries).lookup k = entries.lookup k := by
  cases keys <;> rw [putUnder, lookup_put, if_neg h]

end

section

variable {entries : Entries} {v : String × String}

theorem lookup_hear_of_not_leadsTo {k : String} (h : ¬LeadsTo v.1 k) :
    (hear entries v).lookup k = entries.lookup k := by
  unfold hear
  cases hkey : keyOf? v.1 with
  | none => rfl
  | some key => exact lookup_putUnder_of_ne fun hk => h ⟨key, hkey, hk.symm⟩

theorem lookup_hear_of_isSetBy {k : Setting} (h : k.IsSetBy v.1) :
    (hear entries v).lookup k.key = some (.string v.2) := by
  simp only [hear, h.keyOf?_eq, k.path_key, putUnder]
  rw [lookup_put, if_pos rfl]

end

/-! ### Hearing the environment -/

theorem lookup_override_of_not_leadsTo {k : String} :
    ∀ {env : Environment}, (∀ v ∈ env, ¬LeadsTo v.1 k) →
      ∀ entries : Entries, (override env entries).lookup k = entries.lookup k := by
  intro env
  induction env with
  | nil => intro _ entries; rfl
  | cons v env ih =>
      intro h entries
      show (override env (hear entries v)).lookup k = _
      rw [ih fun w hw => h w (List.mem_cons_of_mem _ hw),
        lookup_hear_of_not_leadsTo (h v (by simp))]

theorem override_of_not_isMarked :
    ∀ {env : Environment}, (∀ v ∈ env, ¬IsMarked v.1) →
      ∀ entries : Entries, override env entries = entries := by
  intro env
  induction env with
  | nil => intro _ entries; rfl
  | cons v env ih =>
      intro h entries
      have hv : hear entries v = entries := by
        simp only [hear, keyOf?_of_not_isMarked (h v (by simp))]
      show override env (hear entries v) = entries
      rw [hv, ih fun w hw => h w (List.mem_cons_of_mem _ hw)]

/-- An environment that sets settings, each of them once at most, to texts that stand for a
value.  What else is in it concerns no setting. -/
structure Environment.Fits (env : Environment) : Prop where
  /-- No variable leads into a setting as if it were a table. -/
  direct : ∀ k : Setting, ∀ v ∈ env, LeadsTo v.1 k.key → k.IsSetBy v.1
  once : ∀ k : Setting, env.Pairwise fun v w => k.IsSetBy v.1 → ¬k.IsSetBy w.1
  decodes : ∀ k : Setting, ∀ v ∈ env, k.IsSetBy v.1 → (k.kind.decode? v.2).isSome = true

namespace Environment.Fits

variable {env : Environment} {v : String × String}

theorem nil : Environment.Fits [] :=
  ⟨by simp, by simp, by simp⟩

/-- A variable that is not marked may stand anywhere. -/
theorem cons_of_not_isMarked (h : env.Fits) (hv : ¬IsMarked v.1) :
    Environment.Fits (v :: env) := by
  have hnone : ∀ k : Setting, ¬LeadsTo v.1 k.key := by
    rintro k ⟨key, hkey, -⟩
    rw [keyOf?_of_not_isMarked hv] at hkey
    simp at hkey
  have hunset : ∀ k : Setting, ¬k.IsSetBy v.1 := fun k hk => hnone k hk.leadsTo
  refine ⟨fun k => ?_, fun k => ?_, fun k => ?_⟩
  · exact List.forall_mem_cons.mpr ⟨fun hleads => absurd hleads (hnone k), h.direct k⟩
  · exact List.pairwise_cons.mpr ⟨fun w _ hk => absurd hk (hunset k), h.once k⟩
  · exact List.forall_mem_cons.mpr ⟨fun hk => absurd hk (hunset k), h.decodes k⟩

/-- A variable may set a setting that no other one sets. -/
theorem cons_of_isSetBy (h : env.Fits) {k : Setting} (hk : k.IsSetBy v.1)
    (hdecodes : (k.kind.decode? v.2).isSome = true) (hnew : ∀ w ∈ env, ¬k.IsSetBy w.1) :
    Environment.Fits (v :: env) := by
  refine ⟨fun l => ?_, fun l => ?_, fun l => ?_⟩
  · refine List.forall_mem_cons.mpr ⟨fun hleads => ?_, h.direct l⟩
    exact hk.eq_of_leadsTo hleads ▸ hk
  · refine List.pairwise_cons.mpr ⟨fun w hw hl => ?_, h.once l⟩
    exact hk.eq_of_leadsTo hl.leadsTo ▸ hnew w hw
  · refine List.forall_mem_cons.mpr ⟨fun hl => ?_, h.decodes l⟩
    exact hk.eq_of_leadsTo hl.leadsTo ▸ hdecodes

end Environment.Fits

/-- A setting as it should be: what the environment sets it to, else what the file has, else
its default. -/
structure IsLayered (env : Environment) (entries : Entries) (k : Setting) (x : k.kind.Value) :
    Prop where
  environment : ∀ v ∈ env, k.IsSetBy v.1 → k.kind.decode? v.2 = some x
  file : (∀ v ∈ env, ¬k.IsSetBy v.1) →
    ∀ t ∈ entries.lookup k.key, k.kind.read? .strict t = some x
  default : (∀ v ∈ env, ¬k.IsSetBy v.1) → entries.lookup k.key = none →
    x = ({} : Settings).get k

/-- What a variable sets is heard, whatever is heard before and after it. -/
theorem lookup_override_of_isSetBy {env : Environment} (henv : env.Fits) {k : Setting}
    {v : String × String} (hv : v ∈ env) (h : k.IsSetBy v.1) (entries : Entries) :
    (override env entries).lookup k.key = some (.string v.2) := by
  obtain ⟨before, after, rfl⟩ := List.append_of_mem hv
  have hlater : ∀ w ∈ after, ¬LeadsTo w.1 k.key := by
    intro w hw hleads
    have hpair := (List.pairwise_append.mp (henv.once k)).2.1
    refine List.rel_of_pairwise_cons hpair hw h (henv.direct k w ?_ hleads)
    exact List.mem_append_right _ (List.mem_cons_of_mem _ hw)
  have hsplit : override (before ++ v :: after) entries
      = override after (hear (override before entries) v) := by
    rw [override, List.foldl_append, List.foldl_cons]
    rfl
  rw [hsplit, lookup_override_of_not_leadsTo hlater, lookup_hear_of_isSetBy h]

/-! ### Reading the layers -/

theorem Environment.Fits.text_eq {env : Environment} (henv : env.Fits) {k : Setting}
    {v w : String × String} (hv : v ∈ env) (hw : w ∈ env) (hkv : k.IsSetBy v.1)
    (hkw : k.IsSetBy w.1) : v.2 = w.2 := by
  have hheard := lookup_override_of_isSetBy henv hv hkv []
  rw [lookup_override_of_isSetBy henv hw hkw [], Option.some.injEq, Toml.string.injEq] at hheard
  exact hheard.symm

section

variable {c : Coercion} {t : Entries} {k : Setting}

theorem valueIn?_of_some {v : Toml} (h : t.lookup k.key = some v) :
    valueIn? c t k = k.kind.read? c v := by
  simp only [valueIn?, entry, h]

theorem valueIn?_of_none (h : t.lookup k.key = none) :
    valueIn? c t k = some (({} : Settings).get k) := by
  simp only [valueIn?, entry, h]

end

section

variable {ws : Workspace} {path : String} {entries : Entries}

/-- Every setting of a file can be read at its word, and means the same when stretched. -/
theorem IsFile.exists_valueIn? (h : IsFile ws path entries) (k : Setting) :
    ∃ x, valueIn? .strict entries k = some x ∧ valueIn? .lenient entries k = some x ∧
      IsLayered [] entries k x := by
  cases hlookup : entries.lookup k.key with
  | none =>
      refine ⟨_, valueIn?_of_none hlookup, valueIn?_of_none hlookup, ?_⟩
      exact ⟨by simp, by simp [hlookup], fun _ _ => rfl⟩
  | some v =>
      obtain ⟨x, hx⟩ := h.exists_read? hlookup
      refine ⟨x, ?_, ?_, ?_⟩
      · rw [valueIn?_of_some hlookup, hx]
      · rw [valueIn?_of_some hlookup, (Setting.Kind.of_strict hx).1]
      · exact ⟨by simp, by simpa [hlookup] using hx, by simp [hlookup]⟩

/-- Every setting can be read where the environment overrides the file. -/
theorem IsFile.exists_isLayered (h : IsFile ws path entries) {env : Environment}
    (henv : env.Fits) (k : Setting) :
    ∃ x, valueIn? .lenient (override env entries) k = some x ∧ IsLayered env entries k x := by
  by_cases hset : ∃ v ∈ env, k.IsSetBy v.1
  · obtain ⟨v, hv, hk⟩ := hset
    obtain ⟨x, hx⟩ := Option.isSome_iff_exists.mp (henv.decodes k v hv hk)
    refine ⟨x, ?_, ?_⟩
    · rw [valueIn?_of_some (lookup_override_of_isSetBy henv hv hk entries),
        Setting.Kind.read?_lenient_string, hx]
    · refine ⟨fun w hw hkw => ?_, fun hunset => absurd hk (hunset v hv),
        fun hunset => absurd hk (hunset v hv)⟩
      rw [← henv.text_eq hv hw hk hkw, hx]
  · have hunset : ∀ v ∈ env, ¬k.IsSetBy v.1 := fun v hv hk => hset ⟨v, hv, hk⟩
    have hlookup := lookup_override_of_not_leadsTo
      (fun v hv hleads => hunset v hv (henv.direct k v hv hleads)) entries
    obtain ⟨x, -, hx, hfile⟩ := h.exists_valueIn? k
    refine ⟨x, ?_, fun v hv hk => absurd hk (hunset v hv), fun _ => hfile.file (by simp),
      fun _ => hfile.default (by simp)⟩
    rw [← hx, valueIn?, valueIn?, entry, entry, hlookup]

theorem IsFile.load_eq (h : IsFile ws path entries) (env : Environment) :
    load ws env (some path) = orBad (ofTable? .lenient (override env entries)) := by
  rw [load, h.fileEntries?_eq, Option.bind_some]

end

/-- **Each setting comes from the topmost layer that has it.**

For a file that holds settings with values of their kinds: where the environment has no marked
variable, loading is reading the file.  And where the environment sets any of the settings, each
once at most, whatever the case of the names, loading succeeds, and each setting is what the
environment sets it to, else what the file has, else its default. -/
theorem load_layered {ws : Workspace} {path : String} {entries : Entries}
    (h : IsFile ws path entries) :
    (∀ env : Environment, (∀ v ∈ env, ¬IsMarked v.1) →
      load ws env (some path) = fromFile ws path) ∧
    (∃ s, fromFile ws path = .ok s ∧ ∀ k, IsLayered [] entries k (s.get k)) ∧
    ∀ env : Environment, env.Fits →
      ∃ s, load ws env (some path) = .ok s ∧ ∀ k, IsLayered env entries k (s.get k) := by
  obtain ⟨f, hf⟩ := Classical.axiomOfChoice h.exists_valueIn?
  refine ⟨fun env henv => ?_, ?_, fun env henv => ?_⟩
  · rw [h.load_eq, override_of_not_isMarked henv, h.fromFile_eq,
      ofTable?_eq_ofValues fun k => (hf k).1, ofTable?_eq_ofValues fun k => (hf k).2.1]
  · obtain ⟨s, hs, hlayered⟩ := exists_ofTable? fun k => ⟨f k, (hf k).1, (hf k).2.2⟩
    exact ⟨s, by rw [h.fromFile_eq, hs]; rfl, hlayered⟩
  · obtain ⟨s, hs, hlayered⟩ := exists_ofTable? (h.exists_isLayered henv)
    exact ⟨s, by rw [h.load_eq, hs]; rfl, hlayered⟩

/-! ### A file and an environment -/

def studioText : String :=
  "dto_suffix = \"Input\"\noutput_type = 'interface' # for tests\nre_export = true\n"

def studioEntries : Entries :=
  [("dto_suffix", .string "Input"), ("output_type", .string "interface"),
    ("re_export", .boolean true)]

def studioFiles : Workspace := fun path =>
  if path = "conf/studio.toml" then .file (studioText.toList.map fun c => UInt8.ofNat c.toNat)
  else .missing

/-- A setting of the file is overridden, one is set anew, and one variable is not heard. -/
def studioVariables : Environment :=
  [("HOME", "/root"), ("Nestjs_Dto_Codegen__RE_EXPORT", "Off"),
    ("NESTJS_DTO_CODEGEN__LOG_LEVEL", "")]

theorem isFile_studio : IsFile studioFiles "conf/studio.toml" studioEntries where
  ending := ⟨"conf/studi", 'o', by decide, by decide⟩
  document := ⟨studioText, by decide +kernel, by decide +kernel⟩
  known := by
    simp only [studioEntries, List.forall_mem_cons]
    exact ⟨⟨.dtoSuffix, rfl⟩, ⟨.outputType, rfl⟩, ⟨.reExport, rfl⟩, by simp⟩
  declared := by
    intro k
    cases k <;> decide +kernel

theorem fits_studio : studioVariables.Fits :=
  .cons_of_not_isMarked
    (.cons_of_isSetBy (k := .reExport)
      (.cons_of_isSetBy (k := .logLevel) .nil (by decide +kernel) rfl (by simp))
      (by decide +kernel) (by decide +kernel) (by decide +kernel))
    (by decide +kernel)

theorem load_layered_studio :
    IsFile studioFiles "conf/studio.toml" studioEntries ∧
      (∀ v ∈ [("HOME", "/root")], ¬IsMarked v.1) ∧
      load studioFiles [("HOME", "/root")] (some "conf/studio.toml")
        = fromFile studioFiles "conf/studio.toml" ∧
      studioVariables.Fits ∧
      (∃ s, load studioFiles studioVariables (some "conf/studio.toml") = .ok s ∧
        ∀ k, IsLayered studioVariables studioEntries k (s.get k)) ∧
      load studioFiles studioVariables (some "conf/studio.toml")
        = .ok { dtoSuffix := "Input", outputType := .interfaces, reExport := false
                logLevel := some "" } := by
  have hunmarked : ∀ v ∈ [("HOME", "/root")], ¬IsMarked v.1 := by decide +kernel
  refine ⟨isFile_studio, hunmarked, (load_layered isFile_studio).1 _ hunmarked, fits_studio,
    (load_layered isFile_studio).2.2 _ fits_studio, ?_⟩
  rw [isFile_studio.load_eq]
  decide +kernel

end Settings

end DtoForge
