/-
Types, their layers, and the package that they come from.

A type of the client package's namespace says so at the start of its text, and layers are
written behind.  A basic type of its own never starts that way.  The name of an enum or of
a class may be anything, so nothing can be told from the text of these.
-/
import DtoForge.Code.TypeExpr

namespace DtoForge.TypeExpr

/-! ### Layers -/

/-- Whether there is an array layer. -/
def hasArray : TypeExpr → Bool
  | array _ => true
  | nullable t => t.hasArray
  | _ => false

/-- Whether the outermost layer is a null layer. -/
def isNullable : TypeExpr → Bool
  | nullable _ => true
  | _ => false

/-- Whether there is no layer at all. -/
def isBasic : TypeExpr → Bool
  | array _ | nullable _ => false
  | _ => true

theorem hasArray_layered {base : TypeExpr} (h : base.isBasic = true) (isList isNullable : Bool) :
    (base.layered isList isNullable).hasArray = isList := by
  have hbase : base.hasArray = false := by
    cases base with
    | array => simp [isBasic] at h
    | nullable => simp [isBasic] at h
    | _ => rfl
  cases isList with
  | true => cases isNullable <;> rfl
  | false => cases isNullable <;> exact hbase

theorem isNullable_layered {base : TypeExpr} (h : base.isBasic = true) (isList isNullable : Bool) :
    (base.layered isList isNullable).isNullable = isNullable := by
  have hbase : base.isNullable = false := by
    cases base with
    | nullable => simp [isBasic] at h
    | _ => rfl
  cases isNullable with
  | true => rfl
  | false =>
      cases isList with
      | true => rfl
      | false => exact hbase

/-! ### The namespace -/

/-- Whether the type is written with the prefix of the client package's namespace. -/
def printsInPrisma (t : TypeExpr) : Prop :=
  "Prisma.".toList <+: t.text.toList

instance (t : TypeExpr) : Decidable t.printsInPrisma :=
  inferInstanceAs (Decidable (_ <+: _))

theorem of_inPrisma {t : TypeExpr} (h : t.inPrisma = true) :
    t.enumName? = none ∧ t.className? = none ∧ t.printsInPrisma := by
  induction t with
  | decimal => exact ⟨rfl, rfl, by decide⟩
  | jsonValue => exact ⟨rfl, rfl, by decide⟩
  | inputJsonValue => exact ⟨rfl, rfl, by decide⟩
  | array t ih =>
      obtain ⟨henum, hclass, hprefix⟩ := ih h
      refine ⟨henum, hclass, ?_⟩
      rw [printsInPrisma, text, String.toList_append]
      exact hprefix.trans (List.prefix_append _ _)
  | nullable t ih =>
      obtain ⟨henum, hclass, hprefix⟩ := ih h
      refine ⟨henum, hclass, ?_⟩
      rw [printsInPrisma, text, String.toList_append]
      exact hprefix.trans (List.prefix_append _ _)
  | _ => simp [inPrisma] at h

private theorem text_of_not_inPrisma {t : TypeExpr} (h : t.inPrisma = false)
    (henum : t.enumName? = none) (hclass : t.className? = none) :
    ∃ c rest, t.text.toList = c :: rest ∧ c ≠ 'P' := by
  induction t with
  | enumRef name => simp [enumName?] at henum
  | classRef name => simp [className?] at hclass
  | array t ih =>
      obtain ⟨c, rest, htext, hc⟩ := ih h henum hclass
      exact ⟨c, _, by rw [text, String.toList_append, htext, List.cons_append], hc⟩
  | nullable t ih =>
      obtain ⟨c, rest, htext, hc⟩ := ih h henum hclass
      exact ⟨c, _, by rw [text, String.toList_append, htext, List.cons_append], hc⟩
  | decimal => simp [inPrisma] at h
  | jsonValue => simp [inPrisma] at h
  | inputJsonValue => simp [inPrisma] at h
  | _ => exact ⟨_, _, rfl, by decide⟩

/-- **Enums and classes apart, the prefix tells the namespace.** -/
theorem inPrisma_iff {t : TypeExpr} :
    t.inPrisma = true ↔ t.enumName? = none ∧ t.className? = none ∧ t.printsInPrisma := by
  refine ⟨of_inPrisma, ?_⟩
  rintro ⟨henum, hclass, hprefix⟩
  cases hin : t.inPrisma with
  | true => rfl
  | false =>
      obtain ⟨c, rest, htext, hc⟩ := text_of_not_inPrisma hin henum hclass
      rw [printsInPrisma, htext] at hprefix
      exact absurd (List.cons_prefix_cons.mp hprefix).1.symm hc

end DtoForge.TypeExpr
