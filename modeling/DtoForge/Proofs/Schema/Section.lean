/-
A document and its section.

A text holds a data model or, under the key `datamodel`, a section of a larger document.
The two shapes are told apart by trying: the section first, and where it cannot be read,
the document itself.  The second attempt does not know of the section, whose key is one of
those that it passes over, and none of the keys that it does know has to be there.  So it
succeeds on what stands beside the section, most often on nothing at all, and a fault
inside of a section is not reported but turns into an empty data model.

Such a fault comes out only where something beside the section is at fault, too.
-/
import DtoForge.Schema.Decode

namespace DtoForge

/-! ### Members under a key -/

theorem lookup_eq_head? (key : String) (members : List (String × Json)) :
    members.lookup key = (members.filter (·.1 == key)).head?.map Prod.snd := by
  induction members with
  | nil => rfl
  | cons m members ih =>
      rw [List.lookup_cons, List.filter_cons, ← BEq.comm (a := m.1)]
      cases hkey : m.1 == key with
      | true => rfl
      | false => simpa using ih

namespace Datamodel

/-- A document is read as a data model by what stands under the keys of one. -/
theorem ofJson?_congr {a b : List (String × Json)}
    (h : ∀ k ∈ keys, a.filter (·.1 == k) = b.filter (·.1 == k)) :
    ofJson? (.object a) = ofJson? (.object b) := by
  have hlookup : ∀ k ∈ keys, a.lookup k = b.lookup k := by
    intro k hk
    rw [lookup_eq_head?, lookup_eq_head?, h k hk]
  have honce : keys.all (fun k => decide ((a.filter (·.1 == k)).length ≤ 1))
      = keys.all (fun k => decide ((b.filter (·.1 == k)).length ≤ 1)) := by
    simp only [keys, List.all_cons, List.all_nil, h "models" (by decide), h "enums" (by decide),
      h "types" (by decide)]
  unfold ofJson? Row.ofJson?
  simp only [honce]
  split
  · simp only [Option.bind_eq_bind, Option.bind_some, Row.defaulted,
      hlookup "models" (by decide), hlookup "enums" (by decide), hlookup "types" (by decide)]
  · rfl

/-! ### The section of a document -/

/-- Whether the members of a document hold a section, once, and it is of the data model. -/
def IsSection (members : List (String × Json)) (dm : Datamodel) : Prop :=
  ∃ v, members.filter (·.1 == "datamodel") = [("datamodel", v)] ∧ ofJson? v = some dm

/-- A document without its section. -/
def beside (members : List (String × Json)) : Json :=
  .object (members.filter (·.1 != "datamodel"))

theorem ofSection?_eq_some_iff {members : List (String × Json)} {dm : Datamodel} :
    ofSection? (.object members) = some dm ↔ IsSection members dm := by
  have hsplit : ∀ found : List (String × Json), (∀ m ∈ found, m.1 = "datamodel") →
      ((if found.length ≤ 1 then found.head?.map Prod.snd else none) >>= ofJson? = some dm ↔
        ∃ v, found = [("datamodel", v)] ∧ ofJson? v = some dm) := by
    intro found hkey
    match found with
    | [] => simp
    | [(k, v)] =>
        have hk : k = "datamodel" := hkey (k, v) (by simp)
        simp [hk]
    | _ :: _ :: _ => simp
  rw [IsSection, ← hsplit _ fun m hm => beq_iff_eq.mp (List.mem_filter.mp hm).2]
  simp only [ofSection?, Row.ofJson?, Row.required, lookup_eq_head?, List.all_cons, List.all_nil,
    Bool.and_true, decide_eq_true_eq]
  split
  · rfl
  · rfl

/-- Reading a document as a data model passes over its section. -/
theorem ofJson?_beside (members : List (String × Json)) :
    ofJson? (beside members) = ofJson? (.object members) := by
  refine ofJson?_congr fun k hk => ?_
  rw [List.filter_filter]
  refine List.filter_congr fun m _ => ?_
  have hne : k ≠ "datamodel" := by
    rintro rfl
    exact absurd hk (by decide)
  by_cases hm : m.1 = k
  · simp [hm, hne]
  · simp [hm]

/-! ### Reading -/

theorem read_of_unreadable {text : String} (h : Json.read? text = none) :
    read text = .error .malformedSchema ∨ read text = .error .misshapenSchema := by
  unfold Json.read? at h
  unfold read
  cases hfront : Json.front? text with
  | none => exact Or.inl rfl
  | some front =>
      obtain ⟨j, rest⟩ := front
      rw [hfront] at h
      have hrest : (Json.skip rest).isEmpty ≠ true := fun hempty => by simp [hempty] at h
      cases hdoc : ofDocument? j with
      | none => exact Or.inr (by simp [hdoc])
      | some dm => exact Or.inl (by simp [hdoc, hrest])

theorem read_of_read? {text : String} {j : Json} (h : Json.read? text = some j) :
    read text = (ofDocument? j).elim (.error .misshapenSchema) .ok := by
  unfold Json.read? at h
  unfold read
  cases hfront : Json.front? text with
  | none => simp [hfront] at h
  | some front =>
      obtain ⟨k, rest⟩ := front
      simp only [hfront, Option.ite_none_right_eq_some, Option.some.injEq] at h
      obtain ⟨hrest, rfl⟩ := h
      cases hdoc : ofDocument? k with
      | none => simp [hdoc]
      | some dm => simp [hdoc, hrest]

/-- **What is read of a document is its section if that can be read, and otherwise what stands
beside it.**  So the section is kept exactly where it can be read or nothing else can. -/
theorem read_document (text : String) :
    (Json.read? text = none →
      read text = .error .malformedSchema ∨ read text = .error .misshapenSchema) ∧
    ∀ members, Json.read? text = some (.object members) →
      (∀ dm, IsSection members dm → read text = .ok dm) ∧
      ((∀ dm, ¬ IsSection members dm) →
        read text = (ofJson? (beside members)).elim (.error .misshapenSchema) .ok) ∧
      ((∀ dm, read text = .ok dm → IsSection members dm) ↔
        (∃ dm, IsSection members dm) ∨ ofJson? (beside members) = none) := by
  refine ⟨read_of_unreadable, fun members hread => ?_⟩
  have hkept : ∀ dm, IsSection members dm → read text = .ok dm := by
    intro dm hsection
    rw [read_of_read? hread, ofDocument?, ofSection?_eq_some_iff.mpr hsection]
    rfl
  have hdropped : (∀ dm, ¬ IsSection members dm) →
      read text = (ofJson? (beside members)).elim (.error .misshapenSchema) .ok := by
    intro hnone
    have hsection : ofSection? (.object members) = none :=
      Option.eq_none_iff_forall_ne_some.mpr fun dm h => hnone dm (ofSection?_eq_some_iff.mp h)
    rw [read_of_read? hread, ofDocument?, hsection, ofJson?_beside]
  refine ⟨hkept, hdropped, ?_, ?_⟩
  · intro hall
    by_cases hsection : ∃ dm, IsSection members dm
    · exact Or.inl hsection
    · have hread' := hdropped fun dm h => hsection ⟨dm, h⟩
      cases hbeside : ofJson? (beside members) with
      | none => exact Or.inr rfl
      | some dm =>
          rw [hbeside] at hread'
          exact absurd ⟨dm, hall dm hread'⟩ hsection
  · rintro (⟨dm, hsection⟩ | hbeside) dm' hok
    · rw [hkept dm hsection] at hok
      exact Except.ok.inj hok ▸ hsection
    · by_cases hsection : ∃ dm, IsSection members dm
      · obtain ⟨dm, hsection⟩ := hsection
        rw [hkept dm hsection] at hok
        exact Except.ok.inj hok ▸ hsection
      · rw [hdropped fun dm h => hsection ⟨dm, h⟩, hbeside] at hok
        exact absurd hok (by simp)

/-- A document with a user in its section, and a key of its own beside it. -/
def documentText : String :=
  "\x7b\"datamodel\": \x7b\"models\": [\x7b\"name\": \"User\"\x7d]\x7d, \"schema\": null\x7d"

def documentMembers : List (String × Json) :=
  [("datamodel", .object [("models", .array [.object [("name", .string "User")]])]),
    ("schema", .null)]

/-- A document whose section has a model without a name. -/
def namelessText : String :=
  "\x7b\"datamodel\": \x7b\"models\": [\x7b\"fields\": []\x7d]\x7d\x7d"

def namelessSection : Json :=
  .object [("models", .array [.object [("fields", .array [])]])]

theorem read?_namelessText :
    Json.read? namelessText = some (.object [("datamodel", namelessSection)]) := by
  cbv

/-- A text that breaks off, a section that is kept, and one that is not. -/
theorem read_document_texts :
    (Json.read? "\x7b" = none ∧
      (read "\x7b" = .error .malformedSchema ∨ read "\x7b" = .error .misshapenSchema)) ∧
    (Json.read? documentText = some (.object documentMembers) ∧
      IsSection documentMembers { models := [{ name := "User" }] } ∧
      read documentText = .ok { models := [{ name := "User" }] }) ∧
    (Json.read? namelessText = some (.object [("datamodel", namelessSection)]) ∧
      (∀ dm, ¬ IsSection [("datamodel", namelessSection)] dm) ∧
      read namelessText = .ok {}) := by
  have hbroken : Json.read? "\x7b" = none := by cbv
  have hread : Json.read? documentText = some (.object documentMembers) := by cbv
  have hsection : IsSection documentMembers { models := [{ name := "User" }] } :=
    ⟨_, rfl, rfl⟩
  have hnone : ∀ dm, ¬ IsSection [("datamodel", namelessSection)] dm := by
    rintro dm ⟨v, hv, hdm⟩
    have hv : namelessSection = v := by simpa using hv
    exact absurd (hv ▸ hdm) (by simp [show ofJson? namelessSection = none from rfl])
  refine ⟨⟨hbroken, (read_document "\x7b").1 hbroken⟩, ⟨hread, hsection, ?_⟩,
    read?_namelessText, hnone, ?_⟩
  · exact ((read_document documentText).2 documentMembers hread).1 _ hsection
  · rw [((read_document namelessText).2 _ read?_namelessText).2.1 hnone]
    rfl

/-- **A section can be dropped.**  It has a model without a name, and what is read is the empty
data model. -/
theorem section_dropped :
    ¬ ∀ (text : String) (members : List (String × Json)) (v : Json) (dm : Datamodel),
      Json.read? text = some (.object members) → ("datamodel", v) ∈ members →
        read text = .ok dm → ofJson? v = some dm := by
  intro h
  have hdropped : read namelessText = .ok {} := by
    rw [read_of_read? read?_namelessText]
    rfl
  have hsection := h namelessText _ namelessSection {} read?_namelessText (by simp) hdropped
  have hnone : ofJson? namelessSection = none := rfl
  rw [hnone] at hsection
  exact absurd hsection (by simp)

end Datamodel

end DtoForge
