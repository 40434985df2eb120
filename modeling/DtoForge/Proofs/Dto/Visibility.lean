/-
What the records do not show.

A hidden field is left out of the plain class and of the entity, and a relation of the plain
class.  Such a field is skipped before anything is made of it: it brings no member and no import,
and its type is not even looked up.  So the file is the one of the model without the field, and
where that fails, it fails over the same.
-/
import DtoForge.Proofs.Dto.Output

namespace DtoForge

/-- The model with some of its fields only. -/
def Model.keeping (m : Model) (keeps : Field → Bool) : Model :=
  { m with fields := m.fields.filter keeps }

namespace Dto

variable {s : Settings} {dm : Datamodel} {m : Model} {kind : DtoKind}

/-- Fields that give an empty part leave no trace in the parts. -/
theorem agree_mapM_filter {part : Field → Except Fault Part} {keeps : Field → Bool}
    (hskip : ∀ f, keeps f = false → part f = .ok {}) (fields : List Field) :
    Agree ContributeAlike (fields.mapM part) ((fields.filter keeps).mapM part) := by
  induction fields with
  | nil => exact .ok fun {β} of _ => rfl
  | cons f fields ih =>
      cases hkept : keeps f with
      | false =>
          rw [List.filter_cons_of_neg (by simp [hkept]), List.mapM_cons, hskip f hkept,
            ← bind_pure ((fields.filter keeps).mapM part)]
          show Agree _ (fields.mapM part >>= fun parts => .ok ({} :: parts)) _
          refine Agree.bind ih fun hparts => .ok ?_
          intro β of hnil
          rw [List.flatMap_cons, hnil, List.nil_append, hparts of hnil]
      | true =>
          rw [List.filter_cons_of_pos hkept, List.mapM_cons, List.mapM_cons]
          refine Agree.bind (Agree.refl (part f)) ?_
          rintro p _ rfl
          refine Agree.bind ih fun hparts => .ok ?_
          intro β of hnil
          rw [List.flatMap_cons, List.flatMap_cons, hparts of hnil]

/-- So an output is that of the model without fields which give it an empty part, as long as the
others are not changed by their absence. -/
theorem assemble_keeping {keeps : Field → Bool}
    (hskip : ∀ f, keeps f = false → f.part s dm m kind = .ok {})
    (hsame : ∀ f : Field, f.part s dm (m.keeping keeps) kind = f.part s dm m kind) :
    assemble s dm m kind = assemble s dm (m.keeping keeps) kind := by
  unfold assemble
  simp only [hsame]
  exact ((agree_mapM_filter hskip m.fields).map fun hparts => ofParts_congr hparts _).eq

end Dto

/-- **Hidden fields leave no trace in the records of a model**, and relations none in its plain
class. -/
theorem Dto.records_keeping (s : Settings) (dm : Datamodel) (m : Model) :
    Dto.entity s dm m = Dto.entity s dm (m.keeping fun f => !f.has .entityHidden) ∧
      Dto.plain s dm m
        = Dto.plain s dm (m.keeping fun f => !f.has .entityHidden && !f.isRelation) := by
  refine ⟨?_, ?_⟩
  · rw [entity_eq, entity_eq]
    refine assemble_keeping (fun f hf => ?_) fun f => rfl
    have hhidden : f.has .entityHidden = true := by simpa using hf
    have hempty : f.given s m .entity = {} := by
      simp only [Field.given, Field.member?, Field.targets, Record.entityMember?, if_pos hhidden]
      rfl
    rw [Field.part, hempty]
    rfl
  · rw [plain_eq, plain_eq]
    refine assemble_keeping (fun f hf => ?_) fun f => rfl
    have hout : (f.has .entityHidden || f.isRelation) = true := by
      simpa [← Bool.not_or] using hf
    have hempty : f.given s m .plain = {} := by
      simp only [Field.given, Field.member?, Field.targets, Record.plainMember?, if_pos hout]
      rfl
    rw [Field.part, hempty]
    rfl

end DtoForge
