/-
What the text of a type tells.

A type is a basic type under layers, and it is written as the basic type followed by a suffix
for each layer, the innermost first.  So a question about what is under the layers is the same
question about the basic type, and the text begins with the basic type's.

No suffix has a dot, and of the basic types only those of the `Prisma` namespace have one.  As
long as no name has one either, the text holds the prefix of the namespace only for these.
-/
import DtoForge.Proofs.Code.TypeExpr
import DtoForge.Proofs.Text.Search

namespace DtoForge.TypeExpr

/-! ### Layers as suffixes -/

/-- What a type can be put under. -/
inductive Layer
  | array
  | nullable
  deriving DecidableEq, Repr

namespace Layer

/-- The suffix that the layer is written as. -/
def text : Layer → String
  | array => "[]"
  | nullable => " | null"

/-- A type under the layer. -/
def on : Layer → TypeExpr → TypeExpr
  | array => TypeExpr.array
  | nullable => TypeExpr.nullable

end Layer

/-- A type under layers, the innermost of them first. -/
def under (base : TypeExpr) (layers : List Layer) : TypeExpr :=
  layers.foldl (fun t l => l.on t) base

/-- The type under all layers. -/
def inner : TypeExpr → TypeExpr
  | array t | nullable t => t.inner
  | t => t

/-- The layers, the innermost of them first. -/
def layers : TypeExpr → List Layer
  | array t => t.layers ++ [.array]
  | nullable t => t.layers ++ [.nullable]
  | _ => []

variable {t : TypeExpr}

theorem under_concat (base : TypeExpr) (layers : List Layer) (l : Layer) :
    base.under (layers ++ [l]) = l.on (base.under layers) := by
  rw [under, List.foldl_append]
  rfl

theorem isBasic_inner (t : TypeExpr) : t.inner.isBasic = true := by
  induction t with
  | array t ih => exact ih
  | nullable t ih => exact ih
  | _ => rfl

/-- A type is what is under its layers, under these layers. -/
theorem inner_under_layers (t : TypeExpr) : t.inner.under t.layers = t := by
  induction t with
  | array t ih => rw [inner, layers, under_concat, ih, Layer.on]
  | nullable t ih => rw [inner, layers, under_concat, ih, Layer.on]
  | _ => rfl

theorem text_on (l : Layer) (t : TypeExpr) : (l.on t).text = t.text ++ l.text := by
  cases l with
  | array => rfl
  | nullable => rfl

theorem text_under (base : TypeExpr) (layers : List Layer) :
    (base.under layers).text = base.text ++ String.join (layers.map Layer.text) := by
  induction layers generalizing base with
  | nil => simp [under]
  | cons l layers ih =>
      have hcons : base.under (l :: layers) = (l.on base).under layers := rfl
      rw [hcons, ih, text_on, List.map_cons, String.join_cons, String.append_assoc]

/-! ### The enum under the layers -/

theorem enumName?_inner (t : TypeExpr) : t.inner.enumName? = t.enumName? := by
  induction t with
  | array t ih => exact ih
  | nullable t ih => exact ih
  | _ => rfl

theorem enumName?_eq_some_of_isBasic (h : t.isBasic = true) {name : String} :
    t.enumName? = some name ↔ t = .enumRef name := by
  cases t with
  | array => simp [isBasic] at h
  | nullable => simp [isBasic] at h
  | _ => simp [enumName?]

theorem enumName?_eq_some_iff {name : String} :
    t.enumName? = some name ↔ t.inner = .enumRef name := by
  rw [← enumName?_inner]
  exact enumName?_eq_some_of_isBasic t.isBasic_inner

/-! ### The prefix of the namespace -/

/-- The name under the layers, if the type is an enum or a class. -/
def name? : TypeExpr → Option String
  | enumRef name | classRef name => some name
  | array t | nullable t => t.name?
  | _ => none

/-- No dot is written outside of the namespace but those of names. -/
theorem dot_notMem_text (hin : t.inPrisma = false) (hname : ∀ name ∈ t.name?, '.' ∉ name.toList) :
    '.' ∉ t.text.toList := by
  induction t with
  | decimal => simp [inPrisma] at hin
  | jsonValue => simp [inPrisma] at hin
  | inputJsonValue => simp [inPrisma] at hin
  | enumRef name => exact hname name rfl
  | classRef name => exact hname name rfl
  | array t ih =>
      have hdot : '.' ∉ t.text.toList := ih hin hname
      simpa [text] using hdot
  | nullable t ih =>
      have hdot : '.' ∉ t.text.toList := ih hin hname
      simpa [text] using hdot
  | _ => simp [text]

/-- Where no name has a dot, the text holds the prefix just for types of the namespace. -/
theorem inPrisma_iff_holdsText (hname : ∀ name ∈ t.name?, '.' ∉ name.toList) :
    t.inPrisma = true ↔ holdsText t.text "Prisma." = true := by
  constructor
  · intro hin
    obtain ⟨rest, hrest⟩ := (of_inPrisma hin).2.2
    exact (Text.occurs_iff _ _).mpr ⟨[], rest, hrest.symm⟩
  · intro hholds
    cases hin : t.inPrisma with
    | true => rfl
    | false => exact absurd (Text.mem_of_occurs hholds (by decide)) (dot_notMem_text hin hname)

/-- **The text of a type tells its namespace, and an enum's text tells its layers.** -/
theorem told_by_text (hname : ∀ name ∈ t.name?, '.' ∉ name.toList) :
    (t.inPrisma = true ↔ holdsText t.text "Prisma." = true) ∧
      ∀ name, (t.enumName? = some name ↔ t.inner = .enumRef name) ∧
        (t.inner = .enumRef name →
          t = under (.enumRef name) t.layers ∧
            t.text = name ++ String.join (t.layers.map Layer.text)) := by
  refine ⟨inPrisma_iff_holdsText hname, fun name => ⟨enumName?_eq_some_iff, fun hinner => ?_⟩⟩
  have hunder : t = under (.enumRef name) t.layers := by
    rw [← hinner, inner_under_layers]
  refine ⟨hunder, ?_⟩
  calc t.text = (under (.enumRef name) t.layers).text := congrArg text hunder
    _ = name ++ String.join (t.layers.map Layer.text) := text_under _ _

/-- The name of the namespace, as that of an enum, is not its prefix. -/
theorem told_by_text_prisma :
    (∀ name ∈ (nullable (array (nullable (enumRef "Prisma")))).name?, '.' ∉ name.toList) ∧
      (nullable (array (nullable (enumRef "Prisma")))).inPrisma = false ∧
      holdsText "Prisma | null[] | null" "Prisma." = false ∧
      (nullable (array (nullable (enumRef "Prisma")))).enumName? = some "Prisma" ∧
      (nullable (array (nullable (enumRef "Prisma")))).layers = [.nullable, .array, .nullable] ∧
      (nullable (array (nullable (enumRef "Prisma")))).text = "Prisma | null[] | null" := by
  have hname : ∀ name ∈ (nullable (array (nullable (enumRef "Prisma")))).name?,
      '.' ∉ name.toList := by
    intro name h
    obtain rfl : "Prisma" = name := by simpa [name?] using h
    decide
  have h := told_by_text hname
  obtain ⟨-, htext⟩ := (h.2 "Prisma").2 rfl
  refine ⟨hname, rfl, ?_, (h.2 "Prisma").1.mpr rfl, rfl, htext⟩
  exact Bool.eq_false_iff.mpr fun hholds => absurd (h.1.mpr hholds) (by decide)

end DtoForge.TypeExpr
