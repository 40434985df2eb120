/-
What merged imports provide.

Collecting and merging keep to what is asked for: a name is imported from a module exactly
if some statement asks for it, whatever the order.  Merging leaves one statement for each
module, so no module occurs twice.  Statements of modules that nothing else imports from
pass through unchanged, which is how the imports from packages stand in a file as they were
decided.
-/
import Mathlib.Data.List.Induction
import Mathlib.Data.List.Nodup
import DtoForge.Code.Import

namespace DtoForge.Import

/-! ### Names, each once -/

theorem mem_addName {names : List String} {name x : String} :
    x ∈ addName names name ↔ x ∈ names ∨ x = name := by
  unfold addName
  by_cases hmem : name ∈ names
  · rw [if_pos hmem]
    exact ⟨Or.inl, fun h => h.elim id fun heq => heq ▸ hmem⟩
  · rw [if_neg hmem]
    simp

theorem nodup_addName {names : List String} (h : names.Nodup) (name : String) :
    (addName names name).Nodup := by
  unfold addName
  by_cases hmem : name ∈ names
  · rwa [if_pos hmem]
  · rw [if_neg hmem, List.nodup_append]
    refine ⟨h, List.nodup_singleton name, ?_⟩
    intro a ha b hb heq
    rw [List.mem_singleton.mp hb] at heq
    exact hmem (heq ▸ ha)

theorem mem_foldl_addName {x : String} {added : List String} :
    ∀ {names : List String}, x ∈ added.foldl addName names ↔ x ∈ names ∨ x ∈ added := by
  induction added with
  | nil => simp
  | cons name added ih =>
      intro names
      rw [List.foldl_cons, ih, mem_addName, List.mem_cons, or_assoc]

theorem nodup_foldl_addName {added : List String} :
    ∀ {names : List String}, names.Nodup → (added.foldl addName names).Nodup := by
  induction added with
  | nil => exact id
  | cons name added ih => exact fun h => ih (nodup_addName h name)

/-! ### Statements for one module -/

theorem provides_iff {imports : List Import} {source name : String} :
    provides imports source name = true ↔ ∃ i ∈ imports, i.source = source ∧ name ∈ i.names := by
  simp [provides]

theorem provides_append {a b : List Import} {source name : String} :
    provides (a ++ b) source name = (provides a source name || provides b source name) := by
  simp [provides]

theorem provides_require {imports : List Import} {source name source' name' : String} :
    provides (require imports source' name') source name = true ↔
      provides imports source name = true ∨ source' = source ∧ name = name' := by
  unfold require
  by_cases hthere : provides imports source' name' = true
  · rw [if_pos hthere]
    exact ⟨Or.inl, fun h => h.elim id fun heq => heq.1 ▸ heq.2 ▸ hthere⟩
  · rw [if_neg hthere, provides_append, Bool.or_eq_true]
    simp [provides]

theorem mem_require {imports : List Import} {source name : String} {i : Import}
    (h : i ∈ require imports source name) : i ∈ imports ∨ i = ⟨source, [name]⟩ := by
  unfold require at h
  split at h
  · exact Or.inl h
  · simpa using h

/-! ### Absorbing a statement -/

theorem sources_absorb (i : Import) :
    ∀ merged : List Import,
      (absorb i merged).map (·.source) = addName (merged.map (·.source)) i.source := by
  intro merged
  induction merged with
  | nil => rfl
  | cons j merged ih =>
      unfold absorb
      by_cases heq : j.source = i.source
      · simp [heq, addName]
      · rw [if_neg heq, List.map_cons, ih, addName, addName]
        by_cases hmem : i.source ∈ merged.map (·.source)
        · have hthere : i.source ∈ (j :: merged).map (·.source) :=
            List.mem_cons_of_mem _ hmem
          rw [if_pos hmem, if_pos hthere]
          rfl
        · have hnew : i.source ∉ (j :: merged).map (·.source) := by
            rw [List.map_cons, List.mem_cons]
            exact fun h => h.elim (fun hi => heq hi.symm) hmem
          rw [if_neg hmem, if_neg hnew]
          rfl

theorem provides_absorb {i : Import} {source name : String} :
    ∀ {merged : List Import}, provides (absorb i merged) source name = true ↔
      provides merged source name = true ∨ i.source = source ∧ name ∈ i.names := by
  intro merged
  induction merged with
  | nil => simp [absorb, provides]
  | cons j merged ih =>
      unfold absorb
      by_cases heq : j.source = i.source
      · rw [if_pos heq]
        simp only [provides_iff, List.mem_cons, exists_eq_or_imp, mem_foldl_addName, heq]
        rw [and_or_left, or_right_comm]
      · rw [if_neg heq]
        rw [provides_iff] at ih
        simp only [provides_iff, List.mem_cons, exists_eq_or_imp] at ih ⊢
        rw [ih, or_assoc]

theorem forall_absorb {P : Import → Prop} {i : Import} (hi : P i)
    (hjoin : ∀ j, P j → P { j with names := i.names.foldl addName j.names }) :
    ∀ {merged : List Import}, (∀ j ∈ merged, P j) → ∀ j ∈ absorb i merged, P j := by
  intro merged
  induction merged with
  | nil => simpa [absorb] using hi
  | cons k merged ih =>
      intro h
      unfold absorb
      have hrest := fun j hj => h j (List.mem_cons_of_mem k hj)
      by_cases heq : k.source = i.source
      · rw [if_pos heq]
        intro j hj
        rcases List.mem_cons.mp hj with rfl | hj
        · exact hjoin k (h k (by simp))
        · exact hrest j hj
      · rw [if_neg heq]
        intro j hj
        rcases List.mem_cons.mp hj with rfl | hj
        · exact h j (by simp)
        · exact ih hrest j hj

/-- A statement for another module than the first ones leaves these alone. -/
theorem absorb_append {i : Import} (b : List Import) :
    ∀ {a : List Import}, i.source ∉ a.map (·.source) → absorb i (a ++ b) = a ++ absorb i b := by
  intro a
  induction a with
  | nil => exact fun _ => rfl
  | cons j a ih =>
      intro h
      rw [List.map_cons, List.mem_cons, not_or] at h
      rw [List.cons_append, absorb, if_neg (Ne.symm h.1), ih h.2, List.cons_append]

/-! ### Merging -/

theorem merge_append (a b : List Import) :
    merge (a ++ b) = b.foldl (fun merged i => absorb i merged) (merge a) :=
  List.foldl_append

theorem merge_concat (imports : List Import) (i : Import) :
    merge (imports ++ [i]) = absorb i (merge imports) :=
  merge_append imports [i]

theorem sources_merge (imports : List Import) :
    (merge imports).map (·.source) = (imports.map (·.source)).foldl addName [] := by
  induction imports using List.reverseRecOn with
  | nil => rfl
  | append_singleton imports i ih =>
      rw [merge_concat, sources_absorb, ih, List.map_append, List.foldl_append]
      rfl

/-- **After merging, no module occurs in two statements.** -/
theorem nodup_sources_merge (imports : List Import) :
    ((merge imports).map (·.source)).Nodup := by
  rw [sources_merge]
  exact nodup_foldl_addName List.nodup_nil

/-- **Merging neither adds nor loses a name of a module.** -/
theorem provides_merge {imports : List Import} {source name : String} :
    provides (merge imports) source name = true ↔ provides imports source name = true := by
  induction imports using List.reverseRecOn with
  | nil => rfl
  | append_singleton imports i ih =>
      rw [merge_concat, provides_absorb, ih, provides_append, Bool.or_eq_true]
      simp [provides]

theorem forall_merge {P : Import → Prop}
    (hjoin : ∀ i j, P i → P j → P { j with names := i.names.foldl addName j.names }) :
    ∀ {imports : List Import}, (∀ i ∈ imports, P i) → ∀ i ∈ merge imports, P i := by
  intro imports
  induction imports using List.reverseRecOn with
  | nil => simp [merge]
  | append_singleton imports i ih =>
      intro h
      rw [merge_concat]
      have hi : P i := h i (by simp)
      exact forall_absorb hi (fun j hj => hjoin i j hi hj)
        (ih fun j hj => h j (List.mem_append_left _ hj))

/-- Statements for modules that nothing else imports from stay as they are. -/
theorem merge_append_of_disjoint {a b : List Import} (ha : (a.map (·.source)).Nodup)
    (hab : ∀ i ∈ b, i.source ∉ a.map (·.source)) : merge (a ++ b) = a ++ merge b := by
  have hfirst : merge a = a := by
    induction a using List.reverseRecOn with
    | nil => rfl
    | append_singleton a i ih =>
        rw [List.map_append, List.nodup_append] at ha
        have hnew : i.source ∉ a.map (·.source) := fun h => ha.2.2 _ h _ (by simp) rfl
        rw [merge_concat, ih ha.1 fun j hj => fun hmem => hab j hj (by simp [hmem])]
        simpa [absorb] using absorb_append (i := i) [] hnew
  induction b using List.reverseRecOn with
  | nil => simpa [merge] using hfirst
  | append_singleton b i ih =>
      rw [← List.append_assoc, merge_concat, ih fun j hj => hab j (List.mem_append_left _ hj),
        absorb_append _ (hab i (by simp)), merge_concat]

end DtoForge.Import
