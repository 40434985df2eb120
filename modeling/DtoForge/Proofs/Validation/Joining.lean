/-
Options that are joined to an object.

Where the last argument is an object that no place of the validator claims, the options go
into it: its closing brace is taken away, and a comma, the option and a new brace are put
there.  The comma comes whatever stands in front of it.  So the result is an object only if
a member stands there, and that is told by the arguments as they were written: it fails
exactly for an object without members and for one whose last member has a comma already.
-/
import DtoForge.Proofs.Validation.Argument

namespace DtoForge.Each

/-! ### When options are joined -/

/-- The options are joined to the object at the end of `v`: its closing brace and the white
space behind it give way, and what stands in front of them is `head`. -/
def JoinsAt (name v head : String) : Prop :=
  wrap name (some v) = head ++ ", each: true \x7d" ∧
    ∃ blank, v = head ++ "\x7d" ++ blank ∧ ∀ c ∈ blank.toList, isBlank c = true

theorem join?_eq_some {head blank : List Char} (hblank : ∀ c ∈ blank, isBlank c = true) :
    join? (head ++ '\x7d' :: blank) = some (head ++ ", each: true \x7d".toList) := by
  have hcut : head ++ '\x7d' :: blank = (head ++ ['\x7d']) ++ blank := by simp
  have hkept : Text.trimEnd (head ++ '\x7d' :: blank) = head ++ ['\x7d'] := by
    rw [hcut, Text.trimEnd_append_of_blank hblank]
    exact Text.trimEnd_concat (by decide) head
  simp only [join?, hkept, List.getLast?_concat, List.dropLast_concat, if_pos]

/-- Where something stays in front, the closing brace stays, and no comma takes its place. -/
theorem not_prefix_of_brace (head blank more : List Char) :
    ¬(head ++ '\x7d' :: blank) <+: head ++ ',' :: more := by
  rw [List.prefix_append_right_inj, List.cons_prefix_cons]
  rintro ⟨h, -⟩
  exact absurd h (by decide)

/-- The options are joined to an object where nothing speaks of them yet and no place of the
validator claims the object. -/
theorem joinsAt_iff (name v head : String) :
    JoinsAt name v head ↔
      (∃ blank, v = head ++ "\x7d" ++ blank ∧ ∀ c ∈ blank.toList, isBlank c = true) ∧
        holdsText v "each:" = false ∧ Exceeds name v := by
  unfold JoinsAt
  rw [and_comm]
  refine and_congr_right ?_
  rintro ⟨blank, hv, hblank⟩
  have hne : v ≠ "" := by
    rintro rfl
    simpa using congrArg String.toList hv
  have hcut : v.toList = head.toList ++ '\x7d' :: blank.toList := by simp [hv]
  rw [← String.toList_inj, String.toList_append]
  constructor
  · intro hwrap
    -- a result that begins with `v` would still have the closing brace
    have hnot : ¬v.toList <+: (wrap name (some v)).toList := by
      rw [hwrap, hcut]
      exact not_prefix_of_brace head.toList blank.toList " each: true \x7d".toList
    have heach : holdsText v "each:" = false := by
      rw [Bool.eq_false_iff]
      intro heach
      refine hnot ⟨[], ?_⟩
      rw [List.append_nil, wrap_of_speaks name heach]
    refine ⟨heach, ?_⟩
    by_cases hexceeds : Exceeds name v
    · exact hexceeds
    · refine absurd ?_ hnot
      rw [wrap_of_silent hne heach, if_neg hexceeds]
      exact Text.prefix_intercalate _
  · rintro ⟨heach, hexceeds⟩
    rw [wrap_of_silent hne heach, if_pos hexceeds, hcut, join?_eq_some hblank, Option.getD_some]

/-! ### What the comma stands behind -/

/-- A comma behind the text ends a member: the text ends, but for white space, neither with
an opening brace nor with a comma. -/
def EndsMember (head : String) : Prop :=
  ∀ c ∈ (Text.trimEnd head.toList).getLast?, c ≠ '\x7b' ∧ c ≠ ','

/-- Nothing but white space stands in front of the closing brace at the end, up to the opening
brace or to the comma behind the last member. -/
def EndsHollow (v : String) : Prop :=
  ∃ before mark gap blank, (mark = "\x7b" ∨ mark = ",") ∧
    v = before ++ mark ++ gap ++ "\x7d" ++ blank ∧
    (∀ c ∈ gap.toList, isBlank c = true) ∧ ∀ c ∈ blank.toList, isBlank c = true

/-- An opening brace or a comma comes last exactly if only white space follows it. -/
theorem not_endsMember_iff (head : String) :
    ¬EndsMember head ↔ ∃ before mark gap : String, (mark = "\x7b" ∨ mark = ",") ∧
      head = before ++ mark ++ gap ∧ ∀ c ∈ gap.toList, isBlank c = true := by
  constructor
  · intro h
    obtain ⟨c, h⟩ := Classical.not_forall.mp h
    obtain ⟨hlast, hc⟩ := Classical.not_imp.mp h
    have hmark : c = '\x7b' ∨ c = ',' := by
      by_cases hbrace : c = '\x7b'
      · exact Or.inl hbrace
      · exact Or.inr (Classical.not_not.mp fun hcomma => hc ⟨hbrace, hcomma⟩)
    obtain ⟨-, before, gap, hcut, hgap⟩ := Text.getLast?_trimEnd_eq_some_iff.mp hlast
    refine ⟨String.ofList before, String.singleton c, String.ofList gap, ?_, ?_,
      by simpa using hgap⟩
    · exact hmark.imp (fun h => by rw [h]; rfl) (fun h => by rw [h]; rfl)
    · rw [← String.toList_inj, hcut]
      simp
  · rintro ⟨before, mark, gap, hmark, rfl, hgap⟩ h
    have hlast : ∀ c : Char, mark.toList = [c] → isBlank c = false →
        c ∈ (Text.trimEnd (before ++ mark ++ gap).toList).getLast? := by
      intro c hc hblank
      refine Text.getLast?_trimEnd_eq_some_iff.mpr ⟨hblank, before.toList, gap.toList, ?_, hgap⟩
      simp [hc]
    rcases hmark with rfl | rfl
    · exact (h '\x7b' (hlast _ (by decide) (by decide))).1 rfl
    · exact (h ',' (hlast _ (by decide) (by decide))).2 rfl

/-- **Joining keeps an object exactly if it has a member and no comma behind the last one.**

For each validator and each text of arguments, the comma of the options ends a member wherever
they are joined to an object, unless that object is hollow. -/
theorem endsMember_of_joinsAt_iff (name v : String) :
    (∀ head, JoinsAt name v head → EndsMember head) ↔
      ¬(holdsText v "each:" = false ∧ Exceeds name v ∧ EndsHollow v) := by
  constructor
  · rintro h ⟨heach, hexceeds, before, mark, gap, blank, hmark, hv, hgap, hblank⟩
    have hjoins : JoinsAt name v (before ++ mark ++ gap) :=
      (joinsAt_iff name v _).mpr ⟨⟨blank, hv, hblank⟩, heach, hexceeds⟩
    exact (not_endsMember_iff _).mpr ⟨before, mark, gap, hmark, rfl, hgap⟩ (h _ hjoins)
  · intro h head hjoins
    obtain ⟨⟨blank, hv, hblank⟩, heach, hexceeds⟩ := (joinsAt_iff name v head).mp hjoins
    by_cases hhead : EndsMember head
    · exact hhead
    · obtain ⟨before, mark, gap, hmark, rfl, hgap⟩ := (not_endsMember_iff head).mp hhead
      exact absurd ⟨heach, hexceeds, before, mark, gap, blank, hmark, hv, hgap, hblank⟩ h

/-- The options of an object without members are joined to its opening brace. -/
theorem not_endsMember_empty : ¬∀ name v head, JoinsAt name v head → EndsMember head := by
  intro h
  have hwrap : wrap "IsString" (some "\x7b\x7d") = "\x7b" ++ ", each: true \x7d" := by
    decide +kernel
  have hjoins : JoinsAt "IsString" "\x7b\x7d" "\x7b" := ⟨hwrap, "", by decide, by simp⟩
  exact (h _ _ _ hjoins '\x7b' (by decide)).1 rfl

end DtoForge.Each
