/-
What is written of a data model is read again.

A record is written as an object under the keys of its fields.  There are many ways to do so:
the keys stand in any order and others may stand between them, a field that has its default
may be left out, and an absent option may be left out or be `null`.  All of them are told by
slots, which say for each key whether it may be missing and what may stand under it.

Reading takes a record key by key and finds under each what its slot allows, so all ways to
write a data model are read as that data model.  One thing cannot be written: a default value
of `null` looks like no default at all.
-/
import Mathlib.Data.List.Forall2
import DtoForge.Proofs.Schema.Section

namespace DtoForge

/-! ### Values -/

/-- How the values of a type may be written. -/
abbrev Writing (α : Type) := α → Json → Prop

namespace Writing

variable {α : Type}

def text : Writing String := fun s j => j = .string s

def flag : Writing Bool := fun b j => j = .bool b

def kind : Writing FieldKind := fun k j => j = .string k.word

/-- Any value, which is kept as it stands, the order of its keys included. -/
def value : Writing Json := fun v j => j = v

def list (item : Writing α) : Writing (List α) := fun as j =>
  ∃ items, j = .array items ∧ List.Forall₂ item as items

/-- Whether a value is read again however it is written. -/
def ReadBy (w : Writing α) (read? : Json → Option α) (a : α) : Prop :=
  ∀ j, w a j → read? j = some a

theorem readBy_text (s : String) : ReadBy text Json.string? s := by
  rintro j rfl
  rfl

theorem readBy_flag (b : Bool) : ReadBy flag Json.bool? b := by
  rintro j rfl
  rfl

theorem readBy_kind (k : FieldKind) : ReadBy kind FieldKind.ofJson? k := by
  rintro j rfl
  exact FieldKind.ofWord?_word k

theorem readBy_list {item : Writing α} {read? : Json → Option α} {as : List α}
    (h : ∀ a ∈ as, ReadBy item read? a) : ReadBy (list item) (Json.list? read?) as := by
  rintro j ⟨items, rfl, hitems⟩
  show items.mapM read? = some as
  induction hitems with
  | nil => rfl
  | cons ha _ ih =>
      rw [List.mapM_cons, h _ (by simp) _ ha, ih fun b hb => h b (List.mem_cons_of_mem _ hb)]
      rfl

theorem list_map {item : Writing α} {write : α → Json} {as : List α}
    (h : ∀ a ∈ as, item a (write a)) : list item as (.array (as.map write)) :=
  ⟨_, rfl, List.forall₂_map_right_iff.mpr (List.forall₂_same.mpr h)⟩

end Writing

/-! ### Slots -/

/-- What a record may have under a key. -/
structure Slot where
  key : String
  /-- Whether the key may be missing. -/
  mayMiss : Prop
  /-- What may stand under it. -/
  holds : Json → Prop

namespace Slot

variable {α : Type} {key : String} {w : Writing α}

/-- A key that has to be there. -/
def required (key : String) (w : Writing α) (a : α) : Slot := ⟨key, False, w a⟩

/-- A key that may be missing where the value is the one that a missing key stands for. -/
def defaulted (key : String) (w : Writing α) (absent a : α) : Slot := ⟨key, a = absent, w a⟩

/-- A key that may be missing or `null` where there is no value. -/
def optional (key : String) (w : Writing α) : Option α → Slot
  | none => ⟨key, True, (· = .null)⟩
  | some a => ⟨key, False, w a⟩

@[simp] theorem key_required (a : α) : (required key w a).key = key := rfl

@[simp] theorem key_defaulted (absent a : α) : (defaulted key w absent a).key = key := rfl

@[simp] theorem key_optional (a? : Option α) : (optional key w a?).key = key := by
  cases a? <;> rfl

/-- Whether the members of an object fill the slot: its key is missing or stands there once. -/
def FilledBy (slot : Slot) (members : List (String × Json)) : Prop :=
  (slot.mayMiss ∧ members.filter (·.1 == slot.key) = []) ∨
    ∃ j, members.filter (·.1 == slot.key) = [(slot.key, j)] ∧ slot.holds j

/-- Whether the fields of a record fill the slot. -/
def FilledIn (slot : Slot) (row : Row) : Prop :=
  (slot.mayMiss ∧ row slot.key = none) ∨ ∃ j, row slot.key = some j ∧ slot.holds j

/-! ### Reading slots -/

section

variable {row : Row} {read? : Json → Option α}

theorem FilledIn.required_eq {a : α} (h : (required key w a).FilledIn row)
    (hread : Writing.ReadBy w read? a) : row.required key read? = some a := by
  rcases h with ⟨hmiss, -⟩ | ⟨j, hj, ha⟩
  · exact hmiss.elim
  · rw [Row.required, show row key = some j from hj]
    exact hread j ha

theorem FilledIn.defaulted_eq {absent a : α} (h : (defaulted key w absent a).FilledIn row)
    (hread : Writing.ReadBy w read? a) : row.defaulted key read? absent = some a := by
  unfold Row.defaulted
  rcases h with ⟨hdefault, hnone⟩ | ⟨j, hj, ha⟩
  · rw [show row key = none from hnone, show a = absent from hdefault]
  · rw [show row key = some j from hj]
    exact hread j ha

/-- A value of an option is never written as `null`. -/
theorem FilledIn.optional_eq {a? : Option α} (h : (optional key w a?).FilledIn row)
    (hread : ∀ a ∈ a?, Writing.ReadBy w read? a) (hnull : ∀ a ∈ a?, ¬ w a .null) :
    row.optional key read? = some a? := by
  unfold Row.optional Row.defaulted
  cases a? with
  | none =>
      rcases h with ⟨-, hnone⟩ | ⟨j, hj, ha⟩
      · rw [show row key = none from hnone]
      · rw [show row key = some j from hj, show j = .null from ha]
        rfl
  | some a =>
      rcases h with ⟨hmiss, -⟩ | ⟨j, hj, ha⟩
      · exact hmiss.elim
      · have hvalue : (read? j).map some = some (some a) := by rw [hread a rfl j ha]; rfl
        rw [show row key = some j from hj]
        cases j with
        | null => exact absurd ha (hnull a rfl)
        | _ => exact hvalue

theorem FilledIn.flag_eq {b : Bool} (h : (defaulted key Writing.flag false b).FilledIn row) :
    row.flag key = some b :=
  h.defaulted_eq (Writing.readBy_flag b)

theorem FilledIn.optional_text_eq {s? : Option String}
    (h : (optional key Writing.text s?).FilledIn row) :
    row.optional key Json.string? = some s? :=
  h.optional_eq (fun s _ => Writing.readBy_text s) fun _ _ => Json.noConfusion

end

end Slot

/-! ### Records -/

/-- An object that fills the slots of a record.  Keys of no slot are free. -/
def IsRecord (slots : List Slot) (j : Json) : Prop :=
  ∃ members, j = .object members ∧ ∀ slot ∈ slots, slot.FilledBy members

theorem IsRecord.exists_row {slots : List Slot} {keys : List String} {j : Json}
    (h : IsRecord slots j) (hkeys : slots.map (·.key) = keys) :
    ∃ row, Row.ofJson? keys j = some row ∧ ∀ slot ∈ slots, slot.FilledIn row := by
  subst hkeys
  obtain ⟨members, rfl, hfilled⟩ := h
  have honce : (slots.map (·.key)).all
      (fun k => decide ((members.filter (·.1 == k)).length ≤ 1)) = true := by
    rw [List.all_map, List.all_eq_true]
    intro slot hslot
    rcases hfilled slot hslot with ⟨-, hnone⟩ | ⟨j, hj, -⟩
    · simp [hnone]
    · simp [hj]
  refine ⟨fun k => members.lookup k, by rw [Row.ofJson?, if_pos honce], fun slot hslot => ?_⟩
  show (slot.mayMiss ∧ members.lookup slot.key = none) ∨
    ∃ j, members.lookup slot.key = some j ∧ slot.holds j
  rw [lookup_eq_head?]
  rcases hfilled slot hslot with ⟨hmiss, hnone⟩ | ⟨j, hj, hholds⟩
  · exact Or.inl ⟨hmiss, by rw [hnone]; rfl⟩
  · exact Or.inr ⟨j, by rw [hj]; rfl, hholds⟩

theorem filter_key_of_nodup {members : List (String × Json)} {key : String} {j : Json}
    (hnodup : (members.map Prod.fst).Nodup) (h : (key, j) ∈ members) :
    members.filter (·.1 == key) = [(key, j)] := by
  induction members with
  | nil => simp at h
  | cons m members ih =>
      rw [List.map_cons, List.nodup_cons] at hnodup
      rcases List.mem_cons.mp h with rfl | h
      · have hrest : members.filter (·.1 == key) = [] := by
          rw [List.filter_eq_nil_iff]
          intro m hm hkey
          have hmem : m.1 ∈ members.map Prod.fst := List.mem_map_of_mem hm
          exact hnodup.1 (beq_iff_eq.mp hkey ▸ hmem)
        simp [hrest]
      · have hne : m.1 ≠ key := by
          intro hkey
          have hmem : key ∈ members.map Prod.fst := List.mem_map_of_mem h
          exact hnodup.1 (hkey ▸ hmem)
        rw [List.filter_cons, if_neg (by simpa using hne), ih hnodup.2 h]

theorem isRecord_zip {slots : List Slot} {keys : List String} {values : List Json}
    (hkeys : slots.map (·.key) = keys) (hnodup : keys.Nodup)
    (h : List.Forall₂ (fun slot j => Slot.holds slot j) slots values) :
    IsRecord slots (.object (keys.zip values)) := by
  subst hkeys
  have honce : (((slots.map (·.key)).zip values).map Prod.fst).Nodup := by
    rw [List.map_fst_zip (by simp [h.length_eq])]
    exact hnodup
  refine ⟨_, rfl, fun slot hslot => Or.inr ?_⟩
  obtain ⟨i, hi, rfl⟩ := List.getElem_of_mem hslot
  have hi' : i < values.length := h.length_eq ▸ hi
  refine ⟨values[i], filter_key_of_nodup honce ?_, h.get hi hi'⟩
  rw [List.mem_iff_getElem]
  exact ⟨i, by simp only [List.length_zip, List.length_map]; omega, by simp⟩

/-! ### The records of a data model -/

/-- The slots of a field. -/
def Field.slots (f : Field) : List Slot :=
  [.required "name" .text f.name,
    .required "kind" .kind f.kind,
    .required "type" .text f.type,
    .defaulted "isRequired" .flag false f.isRequired,
    .defaulted "isList" .flag false f.isList,
    .defaulted "isId" .flag false f.isId,
    .defaulted "isUnique" .flag false f.isUnique,
    .defaulted "isReadOnly" .flag false f.isReadOnly,
    .defaulted "isUpdatedAt" .flag false f.isUpdatedAt,
    .defaulted "hasDefaultValue" .flag false f.hasDefaultValue,
    .optional "default" .value f.defaultValue,
    .optional "relationName" .text f.relationName,
    .defaulted "relationFromFields" (.list .text) [] f.relationFromFields,
    .optional "documentation" .text f.documentation]

theorem Field.keys_slots (f : Field) : f.slots.map (·.key) = keys := by
  simp [slots, keys]

/-- The ways to write a field. -/
def Field.written : Writing Field := fun f => IsRecord f.slots

/-- The slots of a model or composite type. -/
def Model.slots (m : Model) : List Slot :=
  [.required "name" .text m.name,
    .optional "dbName" .text m.dbName,
    .defaulted "fields" (.list Field.written) [] m.fields,
    .optional "documentation" .text m.documentation]

theorem Model.keys_slots (m : Model) : m.slots.map (·.key) = keys := by
  simp [slots, keys]

/-- The ways to write a model or composite type. -/
def Model.written : Writing Model := fun m => IsRecord m.slots

/-- The slots of an enum value. -/
def EnumValue.slots (v : EnumValue) : List Slot :=
  [.required "name" .text v.name, .optional "dbName" .text v.dbName]

theorem EnumValue.keys_slots (v : EnumValue) : v.slots.map (·.key) = keys := by
  simp [slots, keys]

/-- The ways to write an enum value. -/
def EnumValue.written : Writing EnumValue := fun v => IsRecord v.slots

/-- The slots of an enum. -/
def EnumDecl.slots (e : EnumDecl) : List Slot :=
  [.required "name" .text e.name, .defaulted "values" (.list EnumValue.written) [] e.values]

theorem EnumDecl.keys_slots (e : EnumDecl) : e.slots.map (·.key) = keys := by
  simp [slots, keys]

/-- The ways to write an enum. -/
def EnumDecl.written : Writing EnumDecl := fun e => IsRecord e.slots

/-- The slots of a data model. -/
def Datamodel.slots (dm : Datamodel) : List Slot :=
  [.defaulted "models" (.list Model.written) [] dm.models,
    .defaulted "enums" (.list EnumDecl.written) [] dm.enums,
    .defaulted "types" (.list Model.written) [] dm.types]

theorem Datamodel.keys_slots (dm : Datamodel) : dm.slots.map (·.key) = keys := by
  simp [slots, keys]

/-- The ways to write a data model. -/
def Datamodel.written : Writing Datamodel := fun dm => IsRecord dm.slots

/-! ### Reading them -/

theorem bind_of_read {α β : Type} {x : Option α} {a : α} (h : x = some a) (next : α → Option β) :
    (x >>= next) = next a := by
  rw [h]
  rfl

/-- A field is read again, unless its default value cannot be told from none. -/
theorem Field.readBy_written {f : Field} (hdefault : f.defaultValue ≠ some .null) :
    written.ReadBy ofJson? f := by
  intro j hj
  obtain ⟨row, hrow, hfilled⟩ := IsRecord.exists_row hj f.keys_slots
  simp only [slots, List.forall_mem_cons] at hfilled
  obtain ⟨hname, hkind, htype, hrequired, hlist, hid, hunique, hreadOnly, hupdatedAt, hhasDefault,
    hdefaultValue, hrelation, hkeyFields, hdocumentation, -⟩ := hfilled
  have hkept : ∀ v ∈ f.defaultValue, Writing.ReadBy .value some v := fun v _ j hj => congrArg some hj
  have hvalue := hdefaultValue.optional_eq hkept fun v hv hnull =>
    hdefault (hv.trans (congrArg some hnull.symm))
  have hkeyFields := hkeyFields.defaulted_eq (Writing.readBy_list fun s _ => Writing.readBy_text s)
  rw [ofJson?, bind_of_read hrow, bind_of_read (hname.required_eq (Writing.readBy_text _)),
    bind_of_read (hkind.required_eq (Writing.readBy_kind _)),
    bind_of_read (htype.required_eq (Writing.readBy_text _)), bind_of_read hrequired.flag_eq,
    bind_of_read hlist.flag_eq, bind_of_read hid.flag_eq, bind_of_read hunique.flag_eq,
    bind_of_read hreadOnly.flag_eq, bind_of_read hupdatedAt.flag_eq,
    bind_of_read hhasDefault.flag_eq, bind_of_read hvalue,
    bind_of_read hrelation.optional_text_eq, bind_of_read hkeyFields,
    bind_of_read hdocumentation.optional_text_eq]

theorem Model.readBy_written {m : Model} (hdefaults : ∀ f ∈ m.fields, f.defaultValue ≠ some .null) :
    written.ReadBy ofJson? m := by
  intro j hj
  obtain ⟨row, hrow, hfilled⟩ := IsRecord.exists_row hj m.keys_slots
  simp only [slots, List.forall_mem_cons] at hfilled
  obtain ⟨hname, hdbName, hfields, hdocumentation, -⟩ := hfilled
  have hfields := hfields.defaulted_eq
    (Writing.readBy_list fun f hf => Field.readBy_written (hdefaults f hf))
  rw [ofJson?, bind_of_read hrow, bind_of_read (hname.required_eq (Writing.readBy_text _)),
    bind_of_read hdbName.optional_text_eq, bind_of_read hfields,
    bind_of_read hdocumentation.optional_text_eq]

theorem EnumValue.readBy_written (v : EnumValue) : written.ReadBy ofJson? v := by
  intro j hj
  obtain ⟨row, hrow, hfilled⟩ := IsRecord.exists_row hj v.keys_slots
  simp only [slots, List.forall_mem_cons] at hfilled
  obtain ⟨hname, hdbName, -⟩ := hfilled
  rw [ofJson?, bind_of_read hrow, bind_of_read (hname.required_eq (Writing.readBy_text _)),
    bind_of_read hdbName.optional_text_eq]

theorem EnumDecl.readBy_written (e : EnumDecl) : written.ReadBy ofJson? e := by
  intro j hj
  obtain ⟨row, hrow, hfilled⟩ := IsRecord.exists_row hj e.keys_slots
  simp only [slots, List.forall_mem_cons] at hfilled
  obtain ⟨hname, hvalues, -⟩ := hfilled
  have hvalues := hvalues.defaulted_eq (Writing.readBy_list fun v _ => EnumValue.readBy_written v)
  rw [ofJson?, bind_of_read hrow, bind_of_read (hname.required_eq (Writing.readBy_text _)),
    bind_of_read hvalues]

namespace Datamodel

/-- Whether every default value can be told from none. -/
def DefaultsTold (dm : Datamodel) : Prop :=
  ∀ m ∈ dm.models ++ dm.types, ∀ f ∈ m.fields, f.defaultValue ≠ some .null

theorem readBy_written {dm : Datamodel} (h : dm.DefaultsTold) : written.ReadBy ofJson? dm := by
  intro j hj
  obtain ⟨row, hrow, hfilled⟩ := IsRecord.exists_row hj dm.keys_slots
  simp only [slots, List.forall_mem_cons] at hfilled
  obtain ⟨hmodels, henums, htypes, -⟩ := hfilled
  have hmodels := hmodels.defaulted_eq (Writing.readBy_list fun m hm =>
    Model.readBy_written (h m (List.mem_append_left _ hm)))
  have henums := henums.defaulted_eq (Writing.readBy_list fun e _ => EnumDecl.readBy_written e)
  have htypes := htypes.defaulted_eq (Writing.readBy_list fun t ht =>
    Model.readBy_written (h t (List.mem_append_right _ ht)))
  rw [ofJson?, bind_of_read hrow, bind_of_read hmodels, bind_of_read henums,
    bind_of_read htypes]

theorem ofDocument?_of_keyless {members : List (String × Json)}
    (h : ∀ m ∈ members, m.1 ≠ "datamodel") :
    ofDocument? (.object members) = ofJson? (.object members) := by
  have hnone : ofSection? (.object members) = none := by
    rw [Option.eq_none_iff_forall_ne_some]
    intro dm hsection
    obtain ⟨v, hv, -⟩ := ofSection?_eq_some_iff.mp hsection
    have hmem : ("datamodel", v) ∈ members :=
      List.mem_of_mem_filter (p := (·.1 == "datamodel")) (by simp [hv])
    exact h _ hmem rfl
  rw [ofDocument?, hnone]

theorem ofDocument?_of_isSection {members : List (String × Json)} {dm : Datamodel}
    (h : IsSection members dm) : ofDocument? (.object members) = some dm := by
  rw [ofDocument?, ofSection?_eq_some_iff.mpr h]

end Datamodel

/-! ### Writing them in full -/

/-- An option as its value or `null`. -/
def Json.ofOption {α : Type} (write : α → Json) (a? : Option α) : Json :=
  (a?.map write).getD .null

theorem Slot.holds_optional {α : Type} {key : String} {w : Writing α} {write : α → Json}
    (h : ∀ a, w a (write a)) (a? : Option α) :
    (Slot.optional key w a?).holds (Json.ofOption write a?) := by
  cases a? with
  | none => rfl
  | some a => exact h a

theorem Slot.holds_optional_text {key : String} (s? : Option String) :
    (Slot.optional key .text s?).holds (Json.ofOption .string s?) := by
  have htext : ∀ s : String, Writing.text s (.string s) := fun _ => rfl
  exact holds_optional htext s?

/-- A list of texts. -/
def Json.texts (items : List String) : Json :=
  .array (items.map .string)

theorem Writing.list_texts (items : List String) : Writing.list .text items (Json.texts items) :=
  Writing.list_map fun _ _ => rfl

/-- A field with all of its keys. -/
def Field.toJson (f : Field) : Json :=
  .object (keys.zip [.string f.name, .string f.kind.word, .string f.type, .bool f.isRequired,
    .bool f.isList, .bool f.isId, .bool f.isUnique, .bool f.isReadOnly, .bool f.isUpdatedAt,
    .bool f.hasDefaultValue, .ofOption id f.defaultValue, .ofOption .string f.relationName,
    .texts f.relationFromFields, .ofOption .string f.documentation])

/-- A model or composite type with all of its keys. -/
def Model.toJson (m : Model) : Json :=
  .object (keys.zip [.string m.name, .ofOption .string m.dbName,
    .array (m.fields.map Field.toJson), .ofOption .string m.documentation])

/-- An enum value with all of its keys. -/
def EnumValue.toJson (v : EnumValue) : Json :=
  .object (keys.zip [.string v.name, .ofOption .string v.dbName])

/-- An enum with all of its keys. -/
def EnumDecl.toJson (e : EnumDecl) : Json :=
  .object (keys.zip [.string e.name, .array (e.values.map EnumValue.toJson)])

/-- A data model with all of its keys. -/
def Datamodel.toJson (dm : Datamodel) : Json :=
  .object (keys.zip [.array (dm.models.map Model.toJson), .array (dm.enums.map EnumDecl.toJson),
    .array (dm.types.map Model.toJson)])

theorem Field.written_toJson (f : Field) : f.written f.toJson := by
  have hkept : ∀ v : Json, Writing.value v (id v) := fun _ => rfl
  refine isRecord_zip f.keys_slots (by decide) ?_
  simp only [slots, List.forall₂_cons, List.Forall₂.nil, and_true]
  exact ⟨rfl, rfl, rfl, rfl, rfl, rfl, rfl, rfl, rfl, rfl, Slot.holds_optional hkept _,
    Slot.holds_optional_text _, Writing.list_texts _, Slot.holds_optional_text _⟩

theorem Model.written_toJson (m : Model) : m.written m.toJson := by
  refine isRecord_zip m.keys_slots (by decide) ?_
  simp only [slots, List.forall₂_cons, List.Forall₂.nil, and_true]
  exact ⟨rfl, Slot.holds_optional_text _, Writing.list_map fun f _ => f.written_toJson,
    Slot.holds_optional_text _⟩

theorem EnumValue.written_toJson (v : EnumValue) : v.written v.toJson := by
  refine isRecord_zip v.keys_slots (by decide) ?_
  simp only [slots, List.forall₂_cons, List.Forall₂.nil, and_true]
  exact ⟨rfl, Slot.holds_optional_text _⟩

theorem EnumDecl.written_toJson (e : EnumDecl) : e.written e.toJson := by
  refine isRecord_zip e.keys_slots (by decide) ?_
  simp only [slots, List.forall₂_cons, List.Forall₂.nil, and_true]
  exact ⟨rfl, Writing.list_map fun v _ => v.written_toJson⟩

theorem Datamodel.written_toJson (dm : Datamodel) : dm.written dm.toJson := by
  refine isRecord_zip dm.keys_slots (by decide) ?_
  simp only [slots, List.forall₂_cons, List.Forall₂.nil, and_true]
  exact ⟨Writing.list_map fun m _ => m.written_toJson, Writing.list_map fun e _ => e.written_toJson,
    Writing.list_map fun t _ => t.written_toJson⟩

/-! ### Reading a text -/

namespace Datamodel

/-- **However a data model is written, it is read again**, on its own and as the section of a
document. -/
theorem read_written {dm : Datamodel} (hdefaults : dm.DefaultsTold) :
    dm.written dm.toJson ∧ ∀ members, dm.written (.object members) →
      (∀ text, Json.read? text = some (.object members) → (∀ m ∈ members, m.1 ≠ "datamodel") →
        read text = .ok dm) ∧
      ∀ text document, Json.read? text = some (.object document) →
        document.filter (·.1 == "datamodel") = [("datamodel", .object members)] →
          read text = .ok dm := by
  refine ⟨dm.written_toJson, fun members hwritten => ?_⟩
  have hdm : ofJson? (.object members) = some dm := readBy_written hdefaults _ hwritten
  constructor
  · intro text hread hkeyless
    rw [read_of_read? hread, ofDocument?_of_keyless hkeyless, hdm]
    rfl
  · intro text document hread hsection
    rw [read_of_read? hread, ofDocument?_of_isSection ⟨_, hsection, hdm⟩]
    rfl

/-- Ships that may have a berth. -/
def harbour : Datamodel where
  models := [
    { name := "Ship"
      fields := [
        { name := "berth", kind := .object, type := "Berth", relationFromFields := ["berthId"]
          defaultValue := some (.bool true) }] }]

/-- The harbour with keys in another order and keys of nobody.  What can be left out is there
as `null`, or empty, or left out. -/
def harbourMembers : List (String × Json) :=
  [("models", .array [.object [
      ("fields", .array [.object [
        ("relationFromFields", .array [.string "berthId"]), ("default", .bool true),
        ("kind", .string "object"), ("type", .string "Berth"), ("name", .string "berth")]]),
      ("key", .null), ("dbName", .null), ("name", .string "Ship")]]),
    ("types", .array [])]

def harbourText : String :=
  "\x7b\"models\":[\x7b\"fields\":[\x7b\"relationFromFields\":[\"berthId\"],\"default\":true," ++
  "\"kind\":\"object\",\"type\":\"Berth\",\"name\":\"berth\"\x7d],\"key\":null,\"dbName\":null," ++
  "\"name\":\"Ship\"\x7d],\"types\":[]\x7d"

/-- A document with the harbour as its section. -/
def harbourDocument : String :=
  "\x7b\"datamodel\":" ++ harbourText ++ "\x7d"

theorem harbour_written : harbour.written (.object harbourMembers) := by
  simp [written, IsRecord, slots, Slot.FilledBy, harbour, harbourMembers, Slot.defaulted,
    Slot.required, Slot.optional, Writing.list, Model.written, Model.slots, Field.written,
    Field.slots, Writing.text, Writing.flag, Writing.kind, Writing.value, FieldKind.word,
    -List.filter_eq_nil_iff]

set_option maxRecDepth 1000 in
/-- The harbour is read from its text and from the document. -/
theorem read_written_harbour :
    harbour.DefaultsTold ∧ harbour.written (.object harbourMembers) ∧
      Json.read? harbourText = some (.object harbourMembers) ∧
        read harbourText = .ok harbour ∧ read harbourDocument = .ok harbour := by
  have hdefaults : harbour.DefaultsTold := by simp [DefaultsTold, harbour]
  have htext : Json.read? harbourText = some (.object harbourMembers) := by cbv
  have hdocument : Json.read? harbourDocument
      = some (.object [("datamodel", .object harbourMembers)]) := by cbv
  obtain ⟨halone, hsection⟩ := (read_written hdefaults).2 _ harbour_written
  exact ⟨hdefaults, harbour_written, htext, halone _ htext (by simp [harbourMembers]),
    hsection _ _ hdocument rfl⟩

end Datamodel

end DtoForge
