/-
Markers in a documentation that holds any number of them.

Every marker begins with `@` and has no other, so where free text has none, a marker is only
met where one was put.  Two markers that are met in one place begin the same text, so one of
them begins with the other, and no marker does that.  What stands around a marker does not
matter, then: it neither hides the marker nor makes another one of it, though many begin alike.
-/
import DtoForge.Dto.RelationInput
import DtoForge.Proofs.Text.Search

namespace DtoForge.Marker

/-! ### Telling markers apart -/

/-- No marker begins with another. -/
theorem eq_of_begins {a m : Marker} (h : a.text.toList <+: m.text.toList) : a = m := by
  have hapart : ∀ a ∈ all, ∀ m ∈ all, a.text.toList <+: m.text.toList → a = m := by
    decide +kernel
  exact hapart a (mem_all a) m (mem_all m) h

theorem exists_name (m : Marker) : ∃ name, m.text.toList = '@' :: name ∧ '@' ∉ name := by
  cases m <;> exact ⟨_, rfl, by decide⟩

/-- A text that a marker begins, begins with no other, whatever follows. -/
theorem prefix_text_append_iff {a m : Marker} {s : List Char} :
    a.text.toList <+: m.text.toList ++ s ↔ a = m := by
  constructor
  · intro h
    have hm : m.text.toList <+: m.text.toList ++ s := List.prefix_append _ s
    rcases List.prefix_or_prefix_of_prefix h hm with ham | hma
    · exact eq_of_begins ham
    · exact (eq_of_begins hma).symm
  · rintro rfl
    exact List.prefix_append _ s

/-- Behind the front of a marker, a search goes on where the marker ends. -/
theorem occurs_text_append_iff {a m : Marker} {s : List Char} :
    Text.occurs a.text.toList (m.text.toList ++ s) = true ↔
      a = m ∨ Text.occurs a.text.toList s = true := by
  obtain ⟨mark, ha, -⟩ := a.exists_name
  obtain ⟨name, hm, hfree⟩ := m.exists_name
  have hfront : ('@' :: mark).isPrefixOf ('@' :: (name ++ s)) = true ↔ a = m := by
    rw [List.isPrefixOf_iff_prefix, ← ha, ← List.cons_append, ← hm]
    exact prefix_text_append_iff
  rw [ha, hm, List.cons_append, Text.occurs, Text.occurs_append_of_notMem hfree,
    Bool.or_eq_true, hfront]

/-! ### Documentation with markers -/

/-- A marker, and the text up to the next one. -/
structure Mention where
  marker : Marker
  after : String
  deriving DecidableEq, Repr

/-- The mention as it is written, the text right behind the marker. -/
def Mention.text (i : Mention) : String :=
  i.marker.text ++ i.after

/-- A documentation: free text, and then mentions of markers. -/
def mentioning (lead : String) (mentions : List Mention) : String :=
  lead ++ String.join (mentions.map Mention.text)

/-- A documentation carries these markers and no others, and so lets an input touch the related
record just if one of the two markers of its side is among them. -/
structure Carries (documentation : Option String) (markers : List Marker) : Prop where
  each : ∀ m : Marker, documented documentation m.text = true ↔ m ∈ markers
  onCreate : documentedOneOf documentation Side.onCreate.modifiers = true ↔
    createOnCreate ∈ markers ∨ connectOnCreate ∈ markers
  onUpdate : documentedOneOf documentation Side.onUpdate.modifiers = true ↔
    createOnUpdate ∈ markers ∨ connectOnUpdate ∈ markers

theorem occurs_mentions_iff {a : Marker} {mentions : List Mention}
    (hafter : ∀ i ∈ mentions, '@' ∉ i.after.toList) :
    Text.occurs a.text.toList (String.join (mentions.map Mention.text)).toList = true ↔
      a ∈ mentions.map (·.marker) := by
  obtain ⟨mark, ha, -⟩ := a.exists_name
  induction mentions with
  | nil => simp [ha, Text.occurs]
  | cons i mentions ih =>
      have hfree : '@' ∉ i.after.toList := hafter i (by simp)
      have hrest := ih fun j hj => hafter j (List.mem_cons_of_mem i hj)
      rw [List.map_cons, String.join_cons, Mention.text, String.toList_append,
        String.toList_append, List.append_assoc, occurs_text_append_iff, List.map_cons,
        List.mem_cons, ← hrest, ha, Text.occurs_append_of_notMem hfree]

theorem documented_mentioning_iff {a : Marker} {lead : String} {mentions : List Mention}
    (hlead : '@' ∉ lead.toList) (hafter : ∀ i ∈ mentions, '@' ∉ i.after.toList) :
    documented (some (mentioning lead mentions)) a.text = true ↔
      a ∈ mentions.map (·.marker) := by
  obtain ⟨mark, ha, -⟩ := a.exists_name
  rw [← occurs_mentions_iff hafter, documented, Option.any_some, holdsText, mentioning,
    String.toList_append, ha, Text.occurs_append_of_notMem hlead]

/-- An input may touch the related record where one of its two markers was put. -/
theorem documentedOneOf_mentioning_iff {lead : String} {mentions : List Mention}
    (hlead : '@' ∉ lead.toList) (hafter : ∀ i ∈ mentions, '@' ∉ i.after.toList) (side : Side) :
    documentedOneOf (some (mentioning lead mentions)) side.modifiers = true ↔
      side.createMarker ∈ mentions.map (·.marker) ∨
        side.connectMarker ∈ mentions.map (·.marker) := by
  rw [documentedOneOf, Side.modifiers_eq, List.any_cons, List.any_cons, List.any_nil, Bool.or_false,
    Bool.or_eq_true, documented_mentioning_iff hlead hafter,
    documented_mentioning_iff hlead hafter]

/-- **A documentation carries the markers that were put there, and no others.** -/
theorem carries_mentioning {lead : String} {mentions : List Mention}
    (hlead : '@' ∉ lead.toList) (hafter : ∀ i ∈ mentions, '@' ∉ i.after.toList) :
    Carries (some (mentioning lead mentions)) (mentions.map (·.marker)) where
  each _ := documented_mentioning_iff hlead hafter
  onCreate := documentedOneOf_mentioning_iff hlead hafter .onCreate
  onUpdate := documentedOneOf_mentioning_iff hlead hafter .onUpdate

/-- Letters right behind a marker do not make it the marker of the other side. -/
theorem carries_mentioning_glued :
    '@' ∉ "the owner, ".toList ∧
      (∀ i ∈ [Mention.mk createOnUpdate "OnCreate", Mention.mk readOnly ""],
        '@' ∉ i.after.toList) ∧
      mentioning "the owner, " [⟨createOnUpdate, "OnCreate"⟩, ⟨readOnly, ""⟩]
        = "the owner, @DtoRelationCanCreateOnUpdateOnCreate@DtoReadOnly" ∧
      Carries (some "the owner, @DtoRelationCanCreateOnUpdateOnCreate@DtoReadOnly")
        [createOnUpdate, readOnly] := by
  have hlead : '@' ∉ "the owner, ".toList := by decide
  have hafter : ∀ i ∈ [Mention.mk createOnUpdate "OnCreate", Mention.mk readOnly ""],
      '@' ∉ i.after.toList := by decide
  exact ⟨hlead, hafter, rfl, carries_mentioning hlead hafter⟩

end DtoForge.Marker
