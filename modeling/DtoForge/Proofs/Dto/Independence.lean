/-
Models are resolved on their own.

A field that refers to another model or composite type looks it up by name, models first, and of
what is found only the name is used, which is the one that was asked for.  So of a data model an
output knows nothing but which names it declares: neither what the fields of other models are,
nor what is documented there, nor in which order anything stands.

A run that succeeds is therefore a row of blocks, one for each composite type and each model, and
with the models in another order it is the same blocks in that order.
-/
import DtoForge.Proofs.Dto.Output

namespace DtoForge

/-! ### What is known of a data model -/

namespace Datamodel

/-- Data models whose models and composite types together have the same names. -/
def SameNames (dm dm' : Datamodel) : Prop :=
  ∀ name, name ∈ dm.names ↔ name ∈ dm'.names

theorem sameNames_of_perm {dm dm' : Datamodel} (hmodels : dm.models.Perm dm'.models)
    (htypes : dm.types.Perm dm'.types) : dm.SameNames dm' :=
  fun _ => ((hmodels.append htypes).map (·.name)).mem_iff

variable {dm dm' : Datamodel}

theorem SameNames.declares_eq (h : dm.SameNames dm') (name : String) :
    dm.declares name = dm'.declares name := by
  rw [Bool.eq_iff_iff, declares_iff, declares_iff]
  exact h name

end Datamodel

/-! ### One model -/

section

variable {s : Settings} {dm dm' : Datamodel}

theorem Field.part_congr (h : dm.SameNames dm') (m : Model) (f : Field) (kind : DtoKind) :
    f.part s dm m kind = f.part s dm' m kind := by
  rw [part, part, Datamodel.checked, Datamodel.checked, h.declares_eq]

namespace Dto

theorem assemble_congr (h : dm.SameNames dm') (m : Model) (kind : DtoKind) :
    assemble s dm m kind = assemble s dm' m kind := by
  simp only [assemble, Field.part_congr h]

theorem ofModel_congr (h : dm.SameNames dm') (m : Model) :
    ofModel s dm m = ofModel s dm' m := by
  simp only [ofModel_eq, assemble_congr h]

theorem ofType_congr (h : dm.SameNames dm') (t : Model) :
    ofType s dm t = ofType s dm' t := by
  simp only [ofType_eq, assemble_congr h]

end Dto

end

/-! ### Blocks -/

namespace Dto

/-- Files that are a row of blocks: one for each composite type and then one for each of the
models, unless it is ignored, and each the files of its type or model. -/
structure InBlocks (s : Settings) (dm : Datamodel) (models : List Model)
    (typeBlock modelBlock : Model → List Dto) (dtos : List Dto) : Prop where
  ofType : ∀ t ∈ dm.types.filter (!·.isIgnored), ofType s dm t = .ok (typeBlock t)
  ofModel : ∀ m ∈ models.filter (!·.isIgnored), ofModel s dm m = .ok (modelBlock m)
  dtos_eq : dtos = (dm.types.filter (!·.isIgnored)).flatMap typeBlock
    ++ (models.filter (!·.isIgnored)).flatMap modelBlock

section

variable {s : Settings} {dm dm' : Datamodel} {models models' : List Model}
  {typeBlock modelBlock : Model → List Dto} {dtos : List Dto}

theorem exists_inBlocks (h : all s dm models = .ok dtos) :
    ∃ typeBlock modelBlock, InBlocks s dm models typeBlock modelBlock dtos := by
  obtain ⟨types, htypes, h⟩ := bind_eq_ok_iff.mp h
  obtain ⟨files, hfiles, h⟩ := bind_eq_ok_iff.mp h
  obtain ⟨typeBlock, htype, rfl⟩ := exists_map_of_mapM htypes
  obtain ⟨modelBlock, hmodel, rfl⟩ := exists_map_of_mapM hfiles
  exact ⟨typeBlock, modelBlock, htype, hmodel, (Except.ok.inj h).symm⟩

/-- What is in blocks is a run. -/
theorem InBlocks.all_eq_ok (h : InBlocks s dm models typeBlock modelBlock dtos) :
    all s dm models = .ok dtos := by
  rw [all, mapM_eq_ok_map h.ofType, mapM_eq_ok_map h.ofModel, h.dtos_eq]
  rfl

theorem InBlocks.of_perm (h : InBlocks s dm models typeBlock modelBlock dtos)
    (hnames : dm.SameNames dm') (htypes : dm.types.Perm dm'.types)
    (hmodels : models.Perm models') :
    InBlocks s dm' models' typeBlock modelBlock
      ((dm'.types.filter (!·.isIgnored)).flatMap typeBlock
        ++ (models'.filter (!·.isIgnored)).flatMap modelBlock) := by
  refine ⟨fun t ht => ?_, fun m hm => ?_, rfl⟩
  · rw [← ofType_congr hnames]
    exact h.ofType t ((htypes.filter _).mem_iff.mpr ht)
  · rw [← ofModel_congr hnames]
    exact h.ofModel m ((hmodels.filter _).mem_iff.mpr hm)

end

end Dto

/-- **A model is resolved without regard to the others but for their names**, and another order
of the models is another order of the same blocks. -/
theorem resolved_alone (s : Settings) :
    (∀ dm dm' : Datamodel, dm.SameNames dm' → ∀ m,
      Dto.ofModel s dm m = Dto.ofModel s dm' m ∧ Dto.ofType s dm m = Dto.ofType s dm' m) ∧
    ∀ (dm dm' : Datamodel) (models models' : List Model) (dtos : List Dto),
      dm.models.Perm dm'.models → dm.types.Perm dm'.types → models.Perm models' →
        Dto.all s dm models = .ok dtos →
          ∃ typeBlock modelBlock dtos',
            Dto.InBlocks s dm models typeBlock modelBlock dtos ∧
              Dto.all s dm' models' = .ok dtos' ∧
                Dto.InBlocks s dm' models' typeBlock modelBlock dtos' := by
  refine ⟨fun dm dm' h m => ⟨Dto.ofModel_congr h m, Dto.ofType_congr h m⟩, ?_⟩
  intro dm dm' models models' dtos hdeclared htypes hmodels hall
  obtain ⟨typeBlock, modelBlock, hblocks⟩ := Dto.exists_inBlocks hall
  have hblocks' := hblocks.of_perm (Datamodel.sameNames_of_perm hdeclared htypes) htypes hmodels
  exact ⟨typeBlock, modelBlock, _, hblocks, hblocks'.all_eq_ok, hblocks'⟩

/-- The blog with its models in the other order. -/
def Datamodel.blogReversed : Datamodel :=
  { Datamodel.blog with models := Datamodel.blog.models.reverse }

/-- Users and posts give the same beside models that have nothing but the names of these, and the
blog in the other order has the same blocks. -/
theorem resolved_alone_blog :
    (∀ m ∈ Datamodel.blog.models, Dto.ofModel {} .blog m
      = Dto.ofModel {} { models := [{ name := "Post" }, { name := "User" }] } m) ∧
    ∃ dtos dtos' typeBlock modelBlock,
      Dto.all {} .blog (selectedModels {} .blog) = .ok dtos ∧
        Dto.all {} .blogReversed (selectedModels {} .blogReversed) = .ok dtos' ∧
          Dto.InBlocks {} .blog (selectedModels {} .blog) typeBlock modelBlock dtos ∧
            Dto.InBlocks {} .blogReversed (selectedModels {} .blogReversed) typeBlock modelBlock
              dtos' := by
  have hok : (Dto.all {} .blog (selectedModels {} .blog)).toOption.any (fun _ => true) = true := by
    decide +kernel
  obtain ⟨dtos, hall, -⟩ := exists_ok_of_any hok
  obtain ⟨hsame, hreorder⟩ := resolved_alone {}
  have hnames : Datamodel.blog.SameNames { models := [{ name := "Post" }, { name := "User" }] } :=
    fun name => by simp [Datamodel.names, Datamodel.blog, or_comm]
  have hreversed : Datamodel.blog.models.Perm Datamodel.blogReversed.models :=
    (List.reverse_perm _).symm
  have hselected : (selectedModels {} .blog).Perm (selectedModels {} .blogReversed) :=
    hreversed.filter _
  obtain ⟨typeBlock, modelBlock, dtos', hblocks, hall', hblocks'⟩ :=
    hreorder .blog .blogReversed _ _ dtos hreversed (.refl _) hselected hall
  exact ⟨fun m _ => (hsame _ _ hnames m).1, dtos, dtos', typeBlock, modelBlock, hall, hall',
    hblocks, hblocks'⟩

end DtoForge
