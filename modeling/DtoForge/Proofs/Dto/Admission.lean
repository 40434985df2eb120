/-
Which fields an input takes, and how it shows them.

Four things keep a field out of an input: it is read-only, it is a relation that the input may
not touch, it is a foreign key, or the database fills it in.  For each there is a marker that
lets the field in all the same, and the one for foreign keys counts for the first, too.  The two
tests of an input come to these four conditions, and what happens between the tests changes
no member: the members of an input are the fields that meet all four, one for each and in order.

Creating and updating differ in their markers, in what the database fills in, and in what has to
be given.  Without markers, an update is left with what creates a record, without the ids.
-/
import DtoForge.Proofs.Dto.Output

namespace DtoForge

/-! ### The four conditions -/

/-- A field that holds a foreign key, or a part of one, for some relation of the model. -/
def Field.IsKeyOf (m : Model) (f : Field) : Prop :=
  ∃ r ∈ m.fields, r.isRelation = true ∧ f.name ∈ r.relationFromFields

namespace Side

/-- A field that the database fills in.  No update changes an id. -/
def Manages : Side → Field → Prop
  | onCreate, f =>
    (f.isId = true ∧ f.hasDefaultValue = true) ∨ f.isUpdatedAt = true ∨
      (f.isRequired = true ∧ f.hasDefaultValue = true)
  | onUpdate, f =>
    f.isId = true ∨ f.isUpdatedAt = true ∨ (f.isRequired = true ∧ f.hasDefaultValue = true)

/-- A field that an input of its model takes. -/
structure Takes (side : Side) (m : Model) (f : Field) : Prop where
  /-- Of what is read-only, only the foreign keys that are to be kept. -/
  writable : f.isReadOnly = true ∨ f.has .readOnly = true → f.IsKeyOf m ∧ f.has .includeId = true
  /-- Of the relations, only those that the input may touch. -/
  relation : f.isRelation = true → f.has side.createMarker = true ∨ f.has side.connectMarker = true
  /-- Of the foreign keys, only those that are to be kept. -/
  key : f.IsKeyOf m → f.has .includeId = true
  /-- Of what the database fills in, only what is to be left open. -/
  given : f.has side.optionalMarker = true ∨ ¬ side.Manages f

variable {side : Side} {m : Model} {f : Field}

theorem isForeignKey_iff : m.isForeignKey f = true ↔ f.IsKeyOf m := by
  simp only [Model.isForeignKey, Model.foreignKeys, List.contains_iff_mem, List.mem_flatMap,
    List.mem_filter, Field.IsKeyOf, and_assoc]

theorem keepsKey_iff : m.keepsKey f = true ↔ f.IsKeyOf m ∧ f.has .includeId = true := by
  rw [Model.keepsKey, Bool.and_eq_true, isForeignKey_iff, and_comm]

theorem isManaged_iff : side.isManaged f = true ↔ side.Manages f := by
  cases side with
  | onCreate =>
      simp [isManaged, Manages, Field.isIdWithDefault, Field.isRequiredWithDefault, or_assoc]
  | onUpdate => simp [isManaged, Manages, Field.isRequiredWithDefault, or_assoc]

/-- The two tests of an input come to the four conditions. -/
theorem takes_iff : side.Takes m f ↔ side.isOpen m f = true ∧ side.isKept m f = true := by
  have hkey : m.isForeignKey f = false ↔ ¬ f.IsKeyOf m := by
    rw [← isForeignKey_iff, Bool.not_eq_true]
  have hmanaged : side.isManaged f = false ↔ ¬ side.Manages f := by
    rw [← isManaged_iff, Bool.not_eq_true]
  simp only [isOpen, isKept, Field.isClosed, Bool.and_eq_true, Bool.or_eq_true,
    Bool.not_eq_true', Bool.or_eq_false_iff, keepsKey_iff, Field.isModifiable_iff, hkey, hmanaged]
  constructor
  · rintro ⟨hwritable, hrelation, hkept, hgiven⟩
    refine ⟨⟨?_, ?_⟩, ?_, hgiven⟩
    · by_cases hclosed : f.isReadOnly = true ∨ f.has .readOnly = true
      · exact Or.inr (hwritable hclosed)
      · exact Or.inl (by simpa [not_or] using hclosed)
    · cases htouched : f.isRelation with
      | false => exact Or.inl rfl
      | true => exact Or.inr (hrelation htouched)
    · by_cases hholds : f.IsKeyOf m
      · exact Or.inr ⟨hholds, hkept hholds⟩
      · exact Or.inl hholds
  · rintro ⟨⟨hwritable, hrelation⟩, hkept, hgiven⟩
    refine ⟨fun hclosed => ?_, fun htouched => ?_, fun hholds => ?_, hgiven⟩
    · refine hwritable.resolve_left fun hopen => ?_
      rcases hclosed with hclosed | hclosed
      · exact absurd (hclosed.symm.trans hopen.1) (by simp)
      · exact absurd (hclosed.symm.trans hopen.2) (by simp)
    · exact hrelation.resolve_left (by simp [htouched])
    · exact (hkept.resolve_left (not_not_intro hholds)).2

instance : DecidablePred (side.Takes m) := fun _ => decidable_of_iff _ takes_iff.symm

/-! ### How a field is shown -/

/-- A field that may be left out of the input.  A relation to several records may, because
its list is inside the relation input. -/
def MayOmit : Side → Field → Prop
  | onCreate, f =>
    f.has .createOptional = true ∨ (f.isRelation = true ∧ f.isList = true) ∨
      (f.isRequired = false ∧
        ¬ (f.isRelation = true ∧ f.isList = false ∧ f.has .relationRequired = true))
  | onUpdate, _ => True

/-- A member that shows a field as the input has to. -/
structure Shows (side : Side) (f : Field) (x : Member) : Prop where
  name : x.name = f.name
  optional : x.isOptional = true ↔ side.MayOmit f
  /-- Only what is no relation can be emptied. -/
  nullable : x.type.isNullable = true ↔ f.isRelation = false ∧ f.isRequired = false

theorem isRequired_eq_false_iff : side.isRequired f = false ↔ side.MayOmit f := by
  cases side with
  | onUpdate => simp [isRequired, MayOmit]
  | onCreate =>
      simp only [isRequired, MayOmit]
      cases f.has .createOptional <;> cases f.isRelation <;> cases f.isList <;>
        cases f.isRequired <;> cases f.has .relationRequired <;> simp

end Side

/-! ### The members of an input -/

namespace Input

/-- Whatever its member is made of, an input shows a field as it has to. -/
theorem shows_member (s : Settings) (side : Side) (m : Model) (f : Field) :
    side.Shows f (member s side m f) := by
  have hplan := plans_plan s side m f
  refine ⟨hplan.name, ?_, ?_⟩
  · show (plan s side m f).isOptional = true ↔ _
    rw [hplan.isOptional, Bool.not_eq_true', Side.isRequired_eq_false_iff]
  · rw [member, Settings.isNullable_member, hplan.isNullable, Bool.and_eq_true, Bool.not_eq_true',
      Bool.not_eq_true']

end Input

namespace Dto

variable {s : Settings} {dm : Datamodel} {side : Side} {m : Model} {d : Dto}

theorem Holds.members_input (h : d.Holds s m) (hkind : d.kind = side.kind) :
    d.members = (m.fields.filter (side.Takes m ·)).map (Input.member s side m) := by
  have hgives : ∀ f : Field, f.member? s m side.kind = Input.member? s side m f := by
    intro f
    cases side <;> rfl
  rw [h.members, hkind, ← List.filterMap_eq_map', List.filterMap_filter]
  refine List.filterMap_congr fun f _ => ?_
  rw [hgives, Input.member?]
  simp only [Side.takes_iff, Bool.and_eq_true, decide_eq_true_eq]

theorem Holds.shows_input (side : Side) (h : d.Holds s m) (hkind : d.kind = side.kind) :
    List.Forall₂ side.Shows (m.fields.filter (side.Takes m ·)) d.members := by
  rw [h.members_input hkind, List.forall₂_map_right_iff, List.forall₂_same]
  exact fun f _ => Input.shows_member s side m f

theorem names_of_shows {fields : List Field} {members : List Member}
    (h : List.Forall₂ side.Shows fields members) :
    members.map (·.name) = fields.map (·.name) :=
  map_of_forall₂ (h.imp fun _ _ => Side.Shows.name)

end Dto

/-! ### Without markers -/

/-- A model none of whose fields carries a marker. -/
def Model.IsUnmarked (m : Model) : Prop :=
  ∀ f ∈ m.fields, ∀ marker : Marker, f.has marker = false

/-- Without markers, the two inputs differ over ids alone. -/
theorem Side.takes_onUpdate_iff {m : Model} {f : Field}
    (h : ∀ marker : Marker, f.has marker = false) :
    onUpdate.Takes m f ↔ onCreate.Takes m f ∧ f.isId = false := by
  have hmanages : onUpdate.Manages f ↔ onCreate.Manages f ∨ f.isId = true := by
    simp only [Manages]
    tauto
  constructor
  · intro htakes
    have hgiven : ¬ onUpdate.Manages f := htakes.given.resolve_left (by simp [h])
    rw [hmanages, not_or, Bool.not_eq_true] at hgiven
    refine ⟨⟨htakes.writable, fun hrelation => ?_, htakes.key, Or.inr hgiven.1⟩, hgiven.2⟩
    exact absurd (htakes.relation hrelation) (by simp [h])
  · rintro ⟨htakes, hid⟩
    have hgiven : ¬ onCreate.Manages f := htakes.given.resolve_left (by simp [h])
    refine ⟨htakes.writable, fun hrelation => ?_, htakes.key, Or.inr ?_⟩
    · exact absurd (htakes.relation hrelation) (by simp [h])
    · rw [hmanages, not_or]
      exact ⟨hgiven, by simp [hid]⟩

theorem Model.IsUnmarked.filter_takes {m : Model} (h : m.IsUnmarked) :
    m.fields.filter (Side.onUpdate.Takes m ·)
      = (m.fields.filter (Side.onCreate.Takes m ·)).filter (!·.isId) := by
  rw [List.filter_filter]
  refine List.filter_congr fun f hf => ?_
  rw [Bool.eq_iff_iff, decide_eq_true_eq, Side.takes_onUpdate_iff (h f hf), Bool.and_eq_true,
    Bool.not_eq_true', decide_eq_true_eq, and_comm]

/-! ### An example -/

namespace Datamodel

/-- Loans of books to readers.  A new loan names its book, and its reader is known. -/
def loan : Model where
  name := "Loan"
  fields := [
    { name := "id", kind := .scalar, type := "Int", isRequired := true, isId := true
      hasDefaultValue := true },
    { name := "bookIsbn", kind := .scalar, type := "String", isRequired := true, isReadOnly := true
      documentation := some "@DtoRelationIncludeId" },
    { name := "book", kind := .object, type := "Book", isRequired := true
      relationName := some "BookToLoan", relationFromFields := ["bookIsbn"]
      documentation := some "@DtoRelationCanConnectOnCreate" },
    { name := "readerId", kind := .scalar, type := "Int", isRequired := true, isReadOnly := true },
    { name := "reader", kind := .object, type := "Reader", isRequired := true
      relationName := some "LoanToReader", relationFromFields := ["readerId"] },
    { name := "note", kind := .scalar, type := "String" },
    { name := "due", kind := .scalar, type := "DateTime", isRequired := true
      hasDefaultValue := true, documentation := some "@DtoCreateOptional" },
    { name := "changed", kind := .scalar, type := "DateTime", isRequired := true
      isUpdatedAt := true }]

/-- Books without markers. -/
def book : Model where
  name := "Book"
  fields := [
    { name := "isbn", kind := .scalar, type := "String", isRequired := true, isId := true },
    { name := "title", kind := .scalar, type := "String", isRequired := true },
    { name := "pages", kind := .scalar, type := "Int" },
    { name := "added", kind := .scalar, type := "DateTime", isRequired := true
      hasDefaultValue := true },
    { name := "loans", kind := .object, type := "Loan", isRequired := true, isList := true
      relationName := some "BookToLoan" }]

/-- The two, and readers. -/
def library : Datamodel where
  models := [loan, book,
    { name := "Reader"
      fields := [
        { name := "id", kind := .scalar, type := "Int", isRequired := true, isId := true },
        { name := "loans", kind := .object, type := "Loan", isRequired := true, isList := true
          relationName := some "LoanToReader" }] }]

end Datamodel

/-! ### The two inputs -/

namespace Dto

variable {s : Settings} {dm : Datamodel} {m : Model} {d : Dto}

/-- **What creates a record takes exactly the fields that meet the four conditions**, in order,
and shows each of them as it has to. -/
theorem members_create (h : input s dm .onCreate m = .ok d) :
    List.Forall₂ Side.onCreate.Shows (m.fields.filter (Side.onCreate.Takes m ·)) d.members := by
  have hcreate := isAssembled_input h
  exact hcreate.holds.shows_input .onCreate hcreate.isOf.kind_eq

/-- A loan takes the key of its book, which is read-only, and leaves that of its reader out. -/
theorem members_create_loan :
    ∃ d, input {} .library .onCreate Datamodel.loan = .ok d ∧
      d.members.map (·.name) = ["bookIsbn", "book", "note", "due"] ∧
        List.Forall₂ Side.onCreate.Shows
          (Datamodel.loan.fields.filter (Side.onCreate.Takes Datamodel.loan ·)) d.members := by
  have hok : (input {} .library .onCreate Datamodel.loan).toOption.any (fun d =>
      d.members.map (·.name) == ["bookIsbn", "book", "note", "due"]) = true := by
    decide +kernel
  obtain ⟨d, hd, hnames⟩ := exists_ok_of_any hok
  exact ⟨d, hd, beq_iff_eq.mp hnames, members_create hd⟩

/-- **So does what updates one**, and without markers this comes to what creates one, without
the ids. -/
theorem members_update (h : input s dm .onUpdate m = .ok d) :
    List.Forall₂ Side.onUpdate.Shows (m.fields.filter (Side.onUpdate.Takes m ·)) d.members ∧
      ∀ c, m.IsUnmarked → input s dm .onCreate m = .ok c →
        c.members.map (·.name) = (m.fields.filter (Side.onCreate.Takes m ·)).map (·.name) ∧
          d.members.map (·.name)
            = ((m.fields.filter (Side.onCreate.Takes m ·)).filter (!·.isId)).map (·.name) := by
  have hupdate := isAssembled_input h
  have hshows := hupdate.holds.shows_input .onUpdate hupdate.isOf.kind_eq
  refine ⟨hshows, fun c hunmarked hc => ?_⟩
  have hcreate := isAssembled_input hc
  refine ⟨names_of_shows (hcreate.holds.shows_input .onCreate hcreate.isOf.kind_eq), ?_⟩
  rw [← hunmarked.filter_takes]
  exact names_of_shows hshows

/-- A book is updated without its number, which creates it, and has no marker. -/
theorem members_update_book :
    ∃ c d, input {} .library .onCreate Datamodel.book = .ok c ∧
      input {} .library .onUpdate Datamodel.book = .ok d ∧
        c.members.map (·.name) = ["isbn", "title", "pages"] ∧
          d.members.map (·.name) = ["title", "pages"] ∧
            List.Forall₂ Side.onUpdate.Shows
              (Datamodel.book.fields.filter (Side.onUpdate.Takes Datamodel.book ·)) d.members := by
  have hcreate : (input {} .library .onCreate Datamodel.book).toOption.any (fun _ => true)
      = true := by
    decide +kernel
  have hupdate : (input {} .library .onUpdate Datamodel.book).toOption.any (fun _ => true)
      = true := by
    decide +kernel
  have hunmarked : Datamodel.book.IsUnmarked := fun f hf marker =>
    (by decide +kernel : ∀ f ∈ Datamodel.book.fields, ∀ marker ∈ Marker.all,
      f.has marker = false) f hf marker (Marker.mem_all marker)
  obtain ⟨c, hc, -⟩ := exists_ok_of_any hcreate
  obtain ⟨d, hd, -⟩ := exists_ok_of_any hupdate
  obtain ⟨hshows, hunmarkedNames⟩ := members_update hd
  obtain ⟨hcnames, hdnames⟩ := hunmarkedNames c hunmarked hc
  exact ⟨c, d, hc, hd, hcnames.trans (by decide +kernel), hdnames.trans (by decide +kernel),
    hshows⟩

end Dto

end DtoForge
