/-
When an import leads to nothing.

A file is referred to by what a field asks for and put out by what a model has, and two of
the five kinds are not always put out: a model without an identifying field has nothing to
connect, and a composite type has no entity.  Nothing compares the two.  So a relation that
an input may connect leads to a file that is not there if the related model cannot be
named, and so does a relation to a composite type.

These are the only ways: where every connected model can be named and every relation leads
to a model, each import finds its file, and the file exports all that is imported from it.
Names are compared by their file bases here, because files are.
-/
import DtoForge.Proofs.Dto.Closure

namespace DtoForge

/-! ### Where the two kinds are referred to -/

/-- Whether an input of the model connects the records of a relation. -/
def Side.connects (side : Side) (m : Model) (f : Field) : Bool :=
  side.isOpen m f && f.isRelation && f.has side.connectMarker

/-- Whether an entity shows the records of a relation. -/
def Field.isShown (f : Field) : Bool :=
  !f.has .entityHidden && f.isRelation

theorem RelationInput.exists_connect_action {side : Side} {f : Field} :
    (∃ a ∈ actions side f, a.2 = .connect) ↔ f.has side.connectMarker = true := by
  unfold actions
  by_cases hcreate : f.has side.createMarker = true <;>
    by_cases hconnect : f.has side.connectMarker = true <;> simp [hcreate, hconnect]

theorem Input.connect_mem_targets {side : Side} {m : Model} {f : Field} {name : String} :
    ⟨.connect, name⟩ ∈ targets side m f ↔ side.connects m f = true ∧ f.type = name := by
  have hactions :
      (⟨.connect, name⟩ : Target) ∈ (RelationInput.actions side f).map (⟨·.2, f.type⟩) ↔
        f.has side.connectMarker = true ∧ f.type = name := by
    rw [List.mem_map, ← RelationInput.exists_connect_action]
    constructor
    · rintro ⟨a, ha, heq⟩
      obtain ⟨hkind, hname⟩ := Target.mk.inj heq
      exact ⟨⟨a, ha, hkind⟩, hname⟩
    · rintro ⟨⟨a, ha, hkind⟩, rfl⟩
      exact ⟨a, ha, by rw [hkind]⟩
  have hcomposite : side.compositeKind f ≠ .connect := by
    rcases side.compositeKind_cases f with hkind | hkind <;> simp [hkind]
  unfold targets Side.connects
  by_cases hopen : side.isOpen m f = true
  · by_cases hrelation : f.isRelation = true
    · simpa [hopen, hrelation] using hactions
    · by_cases hkept : side.isKept m f = true <;>
        by_cases hembeds : f.isComposite = true <;>
          simp [hopen, hrelation, hkept, hembeds, hcomposite.symm]
  · simp [hopen]

theorem Model.connect_mem_targets {m : Model} {kind : DtoKind} {name : String} :
    ⟨.connect, name⟩ ∈ m.targets kind ↔
      ∃ side : Side, side.kind = kind ∧ ∃ f ∈ m.fields,
        side.connects m f = true ∧ f.type = name := by
  simp only [targets, List.mem_flatMap]
  constructor
  · rintro ⟨f, hf, ht⟩
    cases kind with
    | connect => simp [Field.targets] at ht
    | create => exact ⟨.onCreate, rfl, f, hf, Input.connect_mem_targets.mp ht⟩
    | update => exact ⟨.onUpdate, rfl, f, hf, Input.connect_mem_targets.mp ht⟩
    | plain => exact absurd (Field.mem_targets ht).1 (by simp [DtoKind.isInput])
    | entity => exact absurd (Field.mem_targets ht).1 (by simp [DtoKind.isInput])
  · rintro ⟨side, rfl, f, hf, ht⟩
    refine ⟨f, hf, ?_⟩
    cases side with
    | onCreate => exact Input.connect_mem_targets.mpr ht
    | onUpdate => exact Input.connect_mem_targets.mpr ht

theorem Model.entity_mem_targets {m : Model} {kind : DtoKind} {name : String} :
    ⟨.entity, name⟩ ∈ m.targets kind ↔
      kind = .entity ∧ ∃ f ∈ m.fields, f.isShown = true ∧ f.type = name := by
  have hrecord : ∀ f : Field, (⟨.entity, name⟩ : Target) ∉ Record.valueTargets f := by
    intro f h
    simpa using Record.mem_valueTargets h
  simp only [targets, List.mem_flatMap]
  constructor
  · rintro ⟨f, hf, ht⟩
    have hfamily := (Field.mem_targets ht).1
    cases kind with
    | plain =>
        simp only [Field.targets] at ht
        split at ht
        · simp at ht
        · exact absurd ht (hrecord f)
    | entity =>
        refine ⟨rfl, f, hf, ?_⟩
        simp only [Field.targets] at ht
        by_cases hhidden : f.has .entityHidden = true
        · simp [hhidden] at ht
        · by_cases hrelation : f.isRelation = true
          · simp only [hhidden, hrelation, if_true, Bool.false_eq_true, if_false,
              List.mem_singleton, Target.mk.injEq, true_and] at ht
            exact ⟨by simp [Field.isShown, hhidden, hrelation], ht.symm⟩
          · simp [hhidden, hrelation, hrecord] at ht
    | _ => exact absurd hfamily (by simp [DtoKind.isInput])
  · rintro ⟨rfl, f, hf, hshown, rfl⟩
    simp only [Field.isShown, Bool.and_eq_true, Bool.not_eq_true'] at hshown
    exact ⟨f, hf, by simp [Field.targets, hshown.1, hshown.2]⟩

/-! ### Where they are put out -/

/-- The outputs of a data model that are put out unless something is ignored. -/
def Datamodel.PutsOut (dm : Datamodel) (m : Model) (kind : DtoKind) : Prop :=
  (m ∈ dm.types ∧ kind ∈ Model.typeKinds) ∨ (m ∈ dm.models ∧ kind ∈ m.kinds)

theorem Datamodel.mem_outputs {dm : Datamodel}
    (hkept : ∀ m ∈ dm.models ++ dm.types, m.isIgnored = false) {m : Model} {kind : DtoKind} :
    (m, kind) ∈ dm.outputs dm.models ↔ dm.PutsOut m kind := by
  refine mem_outputs_iff.trans ⟨And.right, fun h => ⟨hkept m ?_, h⟩⟩
  exact List.mem_append.mpr (h.symm.imp And.left And.left)

namespace Dto

/-- The names that other files can import from a file. -/
def exports (d : Dto) : List String :=
  (d.declarations.filter (·.isExported)).map (·.name)

theorem className_mem_exports (d : Dto) : d.className ∈ d.exports := by
  simp [exports, declarations]

theorem exports_of_helpers_eq_nil {d : Dto} (h : d.helpers = []) : d.exports = [d.className] := by
  simp [exports, declarations, h]

/-- No import leads to nothing: with its `.ts` each relative specifier is the path of a file
that exports all that is imported through it. -/
def NoDangling (dtos : List Dto) : Prop :=
  ∀ d ∈ dtos, ∀ i ∈ d.imports, i.isRelative = true →
    ∃ e ∈ dtos, ModulePath.resolve d.directory (i.source ++ ".ts") = some e.path ∧
      ∀ n ∈ i.names, n ∈ e.exports

end Dto

/-! ### When no import dangles -/

namespace Datamodel

/-- Whether there is a file from which the connect class for a name can be imported: that of
a model which can be named, or by chance that of a plain record. -/
def CanConnect (s : Settings) (dm : Datamodel) (name : String) : Prop :=
  (∃ r ∈ dm.models, fileBase r.name = fileBase name ∧ r.fields.any Field.isIdentifying = true) ∨
    ∃ r ∈ dm.models ++ dm.types,
      Target.path s ⟨.plain, r.name⟩ = Target.path s ⟨.connect, name⟩ ∧
        Target.className s ⟨.plain, r.name⟩ = Target.className s ⟨.connect, name⟩

/-- Whether there is a file from which the entity for a name can be imported. -/
def HasEntity (dm : Datamodel) (name : String) : Prop :=
  ∃ r ∈ dm.models, fileBase r.name = fileBase name

instance (s : Settings) (dm : Datamodel) (name : String) : Decidable (dm.CanConnect s name) :=
  inferInstanceAs (Decidable (_ ∨ _))

instance (dm : Datamodel) (name : String) : Decidable (dm.HasEntity name) :=
  inferInstanceAs (Decidable (∃ r ∈ dm.models, _))

/-- A data model of which all is put out that is referred to. -/
structure Complete (s : Settings) (dm : Datamodel) : Prop where
  /-- What an input connects can be connected. -/
  connects : ∀ m ∈ dm.models ++ dm.types, ∀ f ∈ m.fields, ∀ side : Side,
    side.connects m f = true → dm.CanConnect s f.type
  /-- What an entity shows has an entity. -/
  entities : ∀ m ∈ dm.models, ∀ f ∈ m.fields, f.isShown = true → dm.HasEntity f.type

end Datamodel

section

variable {s : Settings} {dm : Datamodel} {dtos : List Dto}

/-- A file of a run is found where an output lies. -/
theorem exists_file (hmatches : Dto.Matches s dm (dm.outputs dm.models) dtos) {m : Model}
    {kind : DtoKind} (ho : (m, kind) ∈ dm.outputs dm.models) :
    ∃ e ∈ dtos, e.path = (Target.mk kind m.name).path s ∧
      (Target.mk kind m.name).className s ∈ e.exports := by
  obtain ⟨e, he, h⟩ := exists_of_forall₂_left hmatches _ ho
  refine ⟨e, he, h.path_eq, ?_⟩
  have hown := e.className_mem_exports
  rw [h.className_eq] at hown
  exact hown

theorem exists_file_of_declared (hkept : ∀ m ∈ dm.models ++ dm.types, m.isIgnored = false)
    (hmatches : Dto.Matches s dm (dm.outputs dm.models) dtos) {t : Target}
    (hdeclared : t.name ∈ dm.names) (hconnect : t.kind ≠ .connect) (hentity : t.kind ≠ .entity) :
    ∃ e ∈ dtos, e.path = t.path s ∧ t.className s ∈ e.exports := by
  obtain ⟨r, hr, hname⟩ := List.mem_map.mp hdeclared
  have ho : (r, t.kind) ∈ dm.outputs dm.models := by
    rw [Datamodel.mem_outputs hkept]
    rcases List.mem_append.mp hr with hr | hr
    · exact Or.inr ⟨hr, Model.mem_kinds_of_ne_connect hconnect⟩
    · exact Or.inl ⟨hr, Model.mem_typeKinds.mpr ⟨hconnect, hentity⟩⟩
  have hfile := exists_file hmatches ho
  rw [hname] at hfile
  exact hfile

/-- The file of one output is that of another with the same file base, as long as the names
agree. -/
theorem exists_file_of_fileBase (hagree : NamesAgree dm.names)
    (hmatches : Dto.Matches s dm (dm.outputs dm.models) dtos) {r : Model} {kind : DtoKind}
    {name : String} (ho : (r, kind) ∈ dm.outputs dm.models) (hr : r.name ∈ dm.names)
    (hname : name ∈ dm.names) (hbase : fileBase r.name = fileBase name) :
    ∃ e ∈ dtos, e.path = (Target.mk kind name).path s ∧
      (Target.mk kind name).className s ∈ e.exports := by
  have hpath : (Target.mk kind r.name).path s = (Target.mk kind name).path s :=
    Target.path_of_fileBase_eq hbase
  have hclass : (Target.mk kind r.name).className s = (Target.mk kind name).className s :=
    Target.className_eq_of_path_eq hagree hr hname rfl hpath
  rw [← hpath, ← hclass]
  exact exists_file hmatches ho

theorem canConnect_of_exports {r : Model} {kind : DtoKind} {e : Dto} {name : String}
    (h : Dto.IsOf s dm r kind e) (hr : dm.PutsOut r kind)
    (hpath : e.path = (Target.mk .connect name).path s)
    (hexports : (Target.mk .connect name).className s ∈ e.exports) : dm.CanConnect s name := by
  rw [h.path_eq] at hpath
  have hfile : kind.fileName r.name = DtoKind.connect.fileName name :=
    Target.fileName_eq_of_path_eq hpath
  cases hfamily : kind.isInput with
  | true =>
      obtain ⟨rfl, hbase⟩ := DtoKind.fileName_inj hfamily hfile
      rcases hr with ⟨-, hkind⟩ | ⟨hr, hkind⟩
      · exact absurd rfl (Model.mem_typeKinds.mp hkind).1
      · exact Or.inl ⟨r, hr, hbase, Model.connect_mem_kinds.mp hkind⟩
  | false =>
      have hplain : kind = .plain := by
        cases kind with
        | plain => rfl
        | entity => exact absurd hfile (DtoKind.entity_fileName_ne (by simp))
        | _ => simp [DtoKind.isInput] at hfamily
      subst hplain
      have hnone := h.helpers_eq_nil fun t ht => Model.isInput_of_mem_targets ht
      rw [Dto.exports_of_helpers_eq_nil hnone, List.mem_singleton, h.className_eq] at hexports
      refine Or.inr ⟨r, ?_, hpath, hexports.symm⟩
      rcases hr with ⟨hr, -⟩ | ⟨hr, -⟩
      · exact List.mem_append_right _ hr
      · exact List.mem_append_left _ hr

theorem hasEntity_of_path {r : Model} {kind : DtoKind} {name : String}
    (hr : dm.PutsOut r kind)
    (hpath : (Target.mk kind r.name).path s = (Target.mk .entity name).path s) :
    dm.HasEntity name := by
  have hfile : kind.fileName r.name = DtoKind.entity.fileName name :=
    Target.fileName_eq_of_path_eq hpath
  have hkind : kind = .entity := by
    by_contra hne
    exact DtoKind.entity_fileName_ne hne hfile.symm
  subst hkind
  rcases hr with ⟨-, hkind⟩ | ⟨hr, -⟩
  · exact absurd rfl (Model.mem_typeKinds.mp hkind).2
  · exact ⟨r, hr, (DtoKind.fileName_inj rfl hfile).2⟩

/-- Where no import dangles, an output that is referred to is exported from where it lies. -/
theorem Dto.NoDangling.exists_export (hno : Dto.NoDangling dtos) {m : Model} {kind : DtoKind}
    {d : Dto} (hd : d ∈ dtos) (h : Dto.IsOf s dm m kind d) {t : Target}
    (ht : t ∈ m.targets kind) (hpath : t.path s ≠ d.path) :
    ∃ e ∈ dtos, e.path = t.path s ∧ t.className s ∈ e.exports := by
  obtain ⟨i, hi, hrelative, hsource, hname⟩ := h.imports_iff.mpr ⟨t, ht, hpath, rfl, rfl⟩
  obtain ⟨e, he, hresolve, hexports⟩ := hno d hd i hi hrelative
  rw [hsource, Target.resolve_specifier_ts] at hresolve
  exact ⟨e, he, (Option.some.inj hresolve).symm, hexports _ hname⟩

/-- Where every output that is referred to is exported from where it lies, no import
dangles: what is imported through one specifier is one class. -/
theorem noDangling_of_exports (hagree : NamesAgree dm.names)
    (hmatches : Dto.Matches s dm (dm.outputs dm.models) dtos)
    (hexports : ∀ o ∈ dm.outputs dm.models, ∀ t ∈ o.1.targets o.2,
      ∃ e ∈ dtos, e.path = t.path s ∧ t.className s ∈ e.exports) :
    Dto.NoDangling dtos := by
  intro d hd i hi hrelative
  obtain ⟨⟨m, kind⟩, ho, h⟩ := exists_of_forall₂_right hmatches d hd
  obtain ⟨first, rest, hnames⟩ := List.exists_cons_of_ne_nil (h.names_ne_nil i hi hrelative)
  have hfirst : first ∈ i.names := by simp [hnames]
  obtain ⟨t, ht, -, hsource, rfl⟩ := h.imports_iff.mp ⟨i, hi, hrelative, rfl, hfirst⟩
  obtain ⟨e, he, hpath, hexport⟩ := hexports _ ho t ht
  refine ⟨e, he, ?_, ?_⟩
  · rw [← hsource, Target.resolve_specifier_ts, hpath]
  · intro n hn
    obtain ⟨u, hu, -, hsource', rfl⟩ := h.imports_iff.mp ⟨i, hi, hrelative, rfl, hn⟩
    have hsame : u.path s = t.path s :=
      Target.path_eq_of_specifier_eq (hsource'.trans hsource.symm)
    have hfamily : u.kind.isInput = t.kind.isInput :=
      (Model.isInput_of_mem_targets hu).trans (Model.isInput_of_mem_targets ht).symm
    have hdeclared := fun v hv => Datamodel.declares_iff.mp (h.declares v hv)
    rw [Target.className_eq_of_path_eq hagree (hdeclared u hu) (hdeclared t ht) hfamily hsame]
    exact hexport

theorem complete_of_noDangling (hkept : ∀ m ∈ dm.models ++ dm.types, m.isIgnored = false)
    (hmatches : Dto.Matches s dm (dm.outputs dm.models) dtos) (hno : Dto.NoDangling dtos) :
    dm.Complete s := by
  have houtputs : ∀ {m kind}, (m, kind) ∈ dm.outputs dm.models ↔ dm.PutsOut m kind :=
    Datamodel.mem_outputs hkept
  constructor
  · intro m hm f hf side hconnects
    have ho : (m, side.kind) ∈ dm.outputs dm.models := by
      rw [houtputs]
      rcases List.mem_append.mp hm with hm | hm
      · exact Or.inr ⟨hm, Model.mem_kinds_of_ne_connect (by cases side <;> simp [Side.kind])⟩
      · exact Or.inl ⟨hm, Model.mem_typeKinds.mpr (by cases side <;> simp [Side.kind])⟩
    obtain ⟨d, hd, h⟩ := exists_of_forall₂_left hmatches _ ho
    have ht : ⟨.connect, f.type⟩ ∈ m.targets side.kind :=
      Model.connect_mem_targets.mpr ⟨side, rfl, f, hf, hconnects, rfl⟩
    have hpath : (Target.mk .connect f.type).path s ≠ d.path := by
      rw [h.path_eq]
      intro hsame
      have hkind := (DtoKind.fileName_inj (by cases side <;> rfl)
        (Target.fileName_eq_of_path_eq hsame)).1
      cases side <;> simp [Side.kind] at hkind
    obtain ⟨e, he, hwhere, hexport⟩ := hno.exists_export hd h ht hpath
    obtain ⟨⟨r, kind⟩, hor, hr⟩ := exists_of_forall₂_right hmatches e he
    exact canConnect_of_exports hr (houtputs.mp hor) hwhere hexport
  · intro m hm f hf hshown
    have ho : (m, DtoKind.entity) ∈ dm.outputs dm.models :=
      houtputs.mpr (Or.inr ⟨hm, Model.mem_kinds_of_ne_connect (by simp)⟩)
    obtain ⟨d, hd, h⟩ := exists_of_forall₂_left hmatches _ ho
    have ht : ⟨.entity, f.type⟩ ∈ m.targets .entity :=
      Model.entity_mem_targets.mpr ⟨rfl, f, hf, hshown, rfl⟩
    by_cases hpath : (Target.mk .entity f.type).path s = d.path
    · rw [h.path_eq] at hpath
      exact hasEntity_of_path (houtputs.mp ho) hpath.symm
    · obtain ⟨e, he, hwhere, -⟩ := hno.exists_export hd h ht hpath
      obtain ⟨⟨r, kind⟩, hor, hr⟩ := exists_of_forall₂_right hmatches e he
      rw [hr.path_eq] at hwhere
      exact hasEntity_of_path (houtputs.mp hor) hwhere

theorem noDangling_of_complete (hagree : NamesAgree dm.names)
    (hkept : ∀ m ∈ dm.models ++ dm.types, m.isIgnored = false)
    (hmatches : Dto.Matches s dm (dm.outputs dm.models) dtos) (hcomplete : dm.Complete s) :
    Dto.NoDangling dtos := by
  have houtputs : ∀ {m kind}, (m, kind) ∈ dm.outputs dm.models ↔ dm.PutsOut m kind :=
    Datamodel.mem_outputs hkept
  refine noDangling_of_exports hagree hmatches ?_
  rintro ⟨m, kind⟩ ho ⟨k, name⟩ ht
  obtain ⟨d, -, h⟩ := exists_of_forall₂_left hmatches _ ho
  have hname : name ∈ dm.names := Datamodel.declares_iff.mp (h.declares _ ht)
  cases k with
  | connect =>
      obtain ⟨side, rfl, f, hf, hconnects, rfl⟩ := Model.connect_mem_targets.mp ht
      have hm : m ∈ dm.models ++ dm.types :=
        List.mem_append.mpr (Datamodel.mem_of_mem_outputs ho).symm
      rcases hcomplete.connects m hm f hf side hconnects with
        ⟨r, hr, hbase, hidentifying⟩ | ⟨r, hr, hpath, hclass⟩
      · have hkind := Model.connect_mem_kinds.mpr hidentifying
        exact exists_file_of_fileBase hagree hmatches (houtputs.mpr (Or.inr ⟨hr, hkind⟩))
          (List.mem_map_of_mem (List.mem_append_left _ hr)) hname hbase
      · rw [← hpath, ← hclass]
        exact exists_file_of_declared hkept hmatches (List.mem_map_of_mem hr) (by simp) (by simp)
  | entity =>
      obtain ⟨rfl, f, hf, hshown, rfl⟩ := Model.entity_mem_targets.mp ht
      rcases houtputs.mp ho with ⟨-, hkind⟩ | ⟨hm, -⟩
      · exact absurd rfl (Model.mem_typeKinds.mp hkind).2
      · obtain ⟨r, hr, hbase⟩ := hcomplete.entities m hm f hf hshown
        have hkind : DtoKind.entity ∈ r.kinds := Model.mem_kinds_of_ne_connect (by simp)
        exact exists_file_of_fileBase hagree hmatches (houtputs.mpr (Or.inr ⟨hr, hkind⟩))
          (List.mem_map_of_mem (List.mem_append_left _ hr)) hname hbase
  | _ => exact exists_file_of_declared hkept hmatches hname (by simp) (by simp)

end

/-- **No import dangles only if every model that an input connects can be named and every
relation that an entity shows leads to a model.**  If names agree, that is enough. -/
theorem noDangling_iff_complete {s : Settings} {dm : Datamodel} {files : List GeneratedFile}
    (hinclude : s.includeModels = "*") (hexclude : s.excludeModels = "")
    (hkept : ∀ m ∈ dm.models ++ dm.types, m.isIgnored = false)
    (hfiles : generate s dm = .ok files) :
    ∃ dtos, Dto.all s dm dm.models = .ok dtos ∧
      files = dtos.map (Dto.file s)
        ++ (if s.reExport then (directories dtos).map (indexOf s dtos) else []) ∧
      (Dto.NoDangling dtos → dm.Complete s) ∧
      (NamesAgree dm.names → dm.Complete s → Dto.NoDangling dtos) := by
  obtain ⟨dtos, hall, heq⟩ := generate_eq_ok hfiles
  rw [selectedModels_all hinclude hexclude] at hall
  have hmatches := Dto.matches_all hall
  exact ⟨dtos, hall, heq, complete_of_noDangling hkept hmatches,
    fun hagree => noDangling_of_complete hagree hkept hmatches⟩

/-- The blog is complete, and no import dangles in what it gives. -/
theorem noDangling_blog :
    ∃ files dtos, generate {} .blog = .ok files ∧
      Dto.all {} .blog Datamodel.blog.models = .ok dtos ∧ Dto.NoDangling dtos := by
  have hok : (generate {} .blog).isOk = true := by decide +kernel
  cases hfiles : generate {} .blog with
  | error e => simp [hfiles, Except.isOk, Except.toBool] at hok
  | ok files =>
      have hagree : NamesAgree Datamodel.blog.names := namesAgree_of_ascii (by decide +kernel)
      have hconnects : ∀ m ∈ Datamodel.blog.models ++ Datamodel.blog.types, ∀ f ∈ m.fields,
          ∀ side ∈ [Side.onCreate, Side.onUpdate],
            side.connects m f = true → Datamodel.blog.CanConnect {} f.type := by
        decide +kernel
      have hcomplete : Datamodel.blog.Complete {} :=
        ⟨fun m hm f hf side => hconnects m hm f hf side (by cases side <;> simp),
          by decide +kernel⟩
      obtain ⟨dtos, hall, -, -, hno⟩ :=
        noDangling_iff_complete rfl rfl (by decide +kernel) hfiles
      exact ⟨files, dtos, rfl, hall, hno hagree hcomplete⟩

/-- Orders of items, which have no field of their own that names them. -/
def orders : Datamodel where
  models := [
    { name := "Order"
      fields := [
        { name := "id", kind := .scalar, type := "Int", isRequired := true, isId := true },
        { name := "item", kind := .object, type := "Item", isRequired := true
          relationName := some "ItemToOrder"
          documentation := some "@DtoRelationCanCreateOnCreate @DtoRelationCanConnectOnCreate" }] },
    { name := "Item"
      fields := [
        { name := "shelf", kind := .scalar, type := "Int", isRequired := true },
        { name := "slot", kind := .scalar, type := "Int", isRequired := true },
        { name := "order", kind := .object, type := "Order"
          relationName := some "ItemToOrder" }] }]

/-- **An import can dangle.**  The file that creates an order imports what connects an item,
and there is no such file. -/
theorem dangling_orders :
    ¬ ∀ (s : Settings) (dm : Datamodel) (files : List GeneratedFile) (dtos : List Dto),
      s.includeModels = "*" → s.excludeModels = "" →
        (∀ m ∈ dm.models ++ dm.types, m.isIgnored = false) → generate s dm = .ok files →
          Dto.all s dm dm.models = .ok dtos → Dto.NoDangling dtos := by
  intro h
  have hok : (generate {} orders).isOk = true := by decide +kernel
  have hdangles : (Dto.all {} orders orders.models).toOption.any (fun dtos =>
      dtos.any fun d => d.imports.any fun i => i.isRelative && dtos.all fun e =>
        ModulePath.resolve d.directory (i.source ++ ".ts") != some e.path) = true := by
    decide +kernel
  cases hfiles : generate {} orders with
  | error e => simp [hfiles, Except.isOk, Except.toBool] at hok
  | ok files =>
      cases hall : Dto.all {} orders orders.models with
      | error e => simp [hall, Except.toOption] at hdangles
      | ok dtos =>
          simp only [hall, Except.toOption, Option.any_some, List.any_eq_true, List.all_eq_true,
            Bool.and_eq_true, bne_iff_ne] at hdangles
          obtain ⟨d, hd, i, hi, hrelative, hnone⟩ := hdangles
          obtain ⟨e, he, hresolve, -⟩ :=
            h {} orders files dtos rfl rfl (by decide +kernel) hfiles hall d hd i hi hrelative
          exact hnone e he hresolve

end DtoForge
