/-
How a specifier goes from one directory to another.

Whatever the two directories are, they have a longest common start, and what is left of them
behind it begins differently.  A specifier goes back over what is left of the first, no step
more and no step less, and then on to what is left of the second.  It never goes above the
root, since it leaves only what it stands in.

Directories are given as texts here.  A text that is joined from components has these
components, as long as none is empty, a name made of dots, or cut by a slash.
-/
import DtoForge.Proofs.Code.ModulePath

namespace DtoForge.ModulePath

/-! ### Directories as texts -/

/-- A component that a path as text can have. -/
structure IsComponent (c : String) : Prop where
  ne_empty : c ≠ ""
  isOrdinary : IsOrdinary c

theorem components_intercalate {dir : List String} (h : ∀ c ∈ dir, IsComponent c) :
    components ("/".intercalate dir) = dir := by
  unfold components
  cases dir with
  | nil => decide
  | cons first rest =>
      rw [split_intercalate (by simp) fun c hc => (h c hc).isOrdinary.2.2]
      refine List.filter_eq_self.mpr fun c hc => ?_
      obtain ⟨hempty, hdot, hdots, -⟩ := h c hc
      simp [hempty, hdot, hdots]

/-! ### File names -/

/-- A file name without one `.ts` at its end, if it has one. -/
def IsStem (last file : String) : Prop :=
  file = last ++ ".ts" ∨ (file = last ∧ ¬ ".ts".toList <:+ file.toList)

theorem stem_eq_of_isStem {last file : String} (h : IsStem last file) : stem file = last := by
  rcases h with rfl | ⟨rfl, hending⟩
  · exact stem_append_ts last
  · have hnone : ['s', 't', '.'].isPrefixOf? file.toList.reverse = none := by
      rw [Option.eq_none_iff_forall_ne_some]
      intro rest hrest
      rw [List.isPrefixOf?_eq_some_iff_append_eq] at hrest
      refine hending (List.reverse_prefix.mp ?_)
      exact ⟨rest, hrest⟩
    rw [stem, hnone]

theorem IsStem.slash_notMem {last file : String} (h : IsStem last file)
    (hfile : '/' ∉ file.toList) : '/' ∉ last.toList := by
  rcases h with rfl | ⟨rfl, -⟩
  · rw [String.toList_append, List.mem_append, not_or] at hfile
    exact hfile.1
  · exact hfile

/-! ### Common starts -/

/-- A start that two directories have in common, and no longer one is. -/
structure IsLongestCommon (common a b : List String) : Prop where
  left : common <+: a
  right : common <+: b
  longest : ∀ start, start <+: a → start <+: b → start.length ≤ common.length

/-- What two directories do not share begins differently. -/
theorem head?_diverge_ne :
    ∀ {a b : List String} {c : String}, (diverge a b).1.head? = some c →
      (diverge a b).2.head? ≠ some c := by
  intro a
  induction a with
  | nil => intro b c h; simp [diverge] at h
  | cons x a ih =>
      intro b c h
      cases b with
      | nil => simp [diverge]
      | cons y b =>
          rw [diverge] at h ⊢
          by_cases hsame : x = y
          · rw [if_pos hsame] at h ⊢
            exact ih h
          · rw [if_neg hsame] at h ⊢
            simp only [List.head?_cons, Option.some.injEq] at h
            simpa [← h] using Ne.symm hsame

/-- So nothing can be added to a common start that leaves just that. -/
theorem isLongestCommon_of_diverge {common a b : List String}
    (ha : a = common ++ (diverge a b).1) (hb : b = common ++ (diverge a b).2) :
    IsLongestCommon common a b := by
  refine ⟨⟨_, ha.symm⟩, ⟨_, hb.symm⟩, fun start hstarta hstartb => ?_⟩
  by_contra hlonger
  have hcommon : common <+: start :=
    List.prefix_of_prefix_length_le ⟨_, ha.symm⟩ hstarta (by omega)
  obtain ⟨more, rfl⟩ := hcommon
  rw [ha, List.prefix_append_right_inj] at hstarta
  rw [hb, List.prefix_append_right_inj] at hstartb
  cases more with
  | nil => simp at hlonger
  | cons c more =>
      obtain ⟨_, hresta⟩ := hstarta
      obtain ⟨_, hrestb⟩ := hstartb
      refine head?_diverge_ne (a := a) (b := b) (c := c) ?_ ?_
      · rw [← hresta]; rfl
      · rw [← hrestb]; rfl

/-! ### Segments -/

/-- The segments of a specifier. -/
def segments (specifier : String) : List String :=
  (Text.splitAt '/' specifier.toList).map String.ofList

/-- A route goes back once for each component that only its start has. -/
theorem count_route {source target : List String} (h : ∀ c ∈ target, IsOrdinary c) :
    (route source target).count ".." = (diverge source target).1.length := by
  obtain ⟨common, -, ht⟩ := diverge_spec source target
  have henter : (diverge source target).2.count ".." = 0 := by
    refine List.count_eq_zero.mpr fun hmem => ?_
    exact (h ".." (by rw [ht]; exact List.mem_append_right _ hmem)).2.1 rfl
  rw [route]
  generalize diverge source target = d at henter
  obtain ⟨leave, enter⟩ := d
  rw [List.count_append, henter, Nat.add_zero]
  cases leave with
  | nil => rfl
  | cons c leave => simp [List.map_const', List.count_replicate_self]

/-! ### Specifiers -/

/-- A specifier that leads from one directory to a file in another. -/
structure LeadsTo (source target : List String) (last specifier : String) : Prop where
  /-- Followed segment by segment it stays below the root and ends at the file. -/
  resolve : resolve source specifier = some (target ++ [last])
  /-- It starts where the importing file is, or above. -/
  relative : "./".toList <+: specifier.toList ∨ "../".toList <+: specifier.toList
  /-- It goes back once for each component of the first directory that the two do not share. -/
  leaves : ∃ common, IsLongestCommon common source target ∧
    (segments specifier).count ".." = source.length - common.length

/-- **The specifier between two directories leads to its file**, however deep they lie and
whatever they share. -/
theorem leadsTo_specifier {source target : List String} {file last : String}
    (hsource : ∀ c ∈ source, IsComponent c) (htarget : ∀ c ∈ target, IsComponent c)
    (hfile : '/' ∉ file.toList) (hstem : IsStem last file) (hdot : last ≠ ".")
    (hdots : last ≠ "..") :
    LeadsTo source target last
      (specifier (components ("/".intercalate source)) (components ("/".intercalate target))
        file) := by
  have hordinary : ∀ c ∈ target, IsOrdinary c := fun c hc => (htarget c hc).isOrdinary
  have hlast : IsOrdinary last := ⟨hdot, hdots, hstem.slash_notMem hfile⟩
  rw [components_intercalate hsource, components_intercalate htarget]
  refine ⟨?_, ?_, ?_⟩
  · rw [← stem_eq_of_isStem hstem] at hlast ⊢
    exact resolve_specifier hordinary hlast
  · have hrelative := isRelative_specifier source target file []
    simpa only [Import.isRelative, Bool.or_eq_true, List.isPrefixOf_iff_prefix] using hrelative
  · obtain ⟨common, hs, ht⟩ := diverge_spec source target
    refine ⟨common, isLongestCommon_of_diverge hs ht, ?_⟩
    have hsegments : segments (specifier source target file) = route source target ++ [last] := by
      rw [segments, specifier, stem_eq_of_isStem hstem, split_intercalate (by simp)]
      intro s hs
      rcases List.mem_append.mp hs with hs | hs
      · exact slash_notMem_route (fun c hc => (hordinary c hc).2.2) s hs
      · rw [List.mem_singleton.mp hs]
        exact hlast.2.2
    have hlength : source.length = common.length + (diverge source target).1.length := by
      conv_lhs => rw [hs]
      exact List.length_append
    rw [hsegments, List.count_append, count_route hordinary, List.count_singleton,
      if_neg (by simpa using hdots)]
    omega

/-- Between two resources there is no way but back to the root. -/
theorem leadsTo_specifier_user :
    specifier (components "post/dto") (components "user/dto") "connect-user.dto.ts"
        = "../../user/dto/connect-user.dto" ∧
      LeadsTo ["post", "dto"] ["user", "dto"] "connect-user.dto"
        (specifier (components "post/dto") (components "user/dto") "connect-user.dto.ts") := by
  refine ⟨by decide +kernel, ?_⟩
  have hcomponents : ∀ c ∈ ["post", "user", "dto"], IsComponent c := by
    intro c hc
    simp only [List.mem_cons, List.not_mem_nil, or_false] at hc
    rcases hc with rfl | rfl | rfl <;> exact ⟨by decide, by decide, by decide, by decide⟩
  exact @leadsTo_specifier ["post", "dto"] ["user", "dto"] _ _
    (fun c hc => hcomponents c (by simp at hc ⊢; tauto))
    (fun c hc => hcomponents c (by simp at hc ⊢; tauto))
    (by decide) (Or.inl rfl) (by decide) (by decide)

end DtoForge.ModulePath
