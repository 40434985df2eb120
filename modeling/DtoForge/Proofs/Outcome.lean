/-
Runs that may fail, read backwards.

A run that gives a result gave one at every step, and a list that was worked through gives
one result for each element, in order.  A run that fails failed at one step, and over a list at
one element.

Two runs of the same steps agree if each pair of steps does: both fail over the same, or both
give results that are related in the same way.
-/
import Mathlib.Data.List.Forall2

namespace DtoForge

variable {ε α β γ δ : Type}

theorem bind_eq_ok_iff {x : Except ε α} {f : α → Except ε β} {b : β} :
    x >>= f = .ok b ↔ ∃ a, x = .ok a ∧ f a = .ok b := by
  cases x with
  | error e => simp [bind, Except.bind]
  | ok a => simp [bind, Except.bind]

theorem map_eq_ok_iff {x : Except ε α} {f : α → β} {b : β} :
    x.map f = .ok b ↔ ∃ a, x = .ok a ∧ f a = b := by
  cases x with
  | error e => simp [Except.map]
  | ok a => simp [Except.map]

theorem bind_eq_error_iff {x : Except ε α} {f : α → Except ε β} {e : ε} :
    x >>= f = .error e ↔ x = .error e ∨ ∃ a, x = .ok a ∧ f a = .error e := by
  cases x with
  | error e => simp [bind, Except.bind]
  | ok a => simp [bind, Except.bind]

theorem map_eq_error_iff {x : Except ε α} {f : α → β} {e : ε} :
    x.map f = .error e ↔ x = .error e := by
  cases x with
  | error e => simp [Except.map]
  | ok a => simp [Except.map]

/-- A step that cannot fail changes no failure. -/
theorem bind_eq_error_iff_left {x : Except ε α} {f : α → Except ε β} {e : ε}
    (hf : ∀ a, ∃ b, f a = .ok b) : x >>= f = .error e ↔ x = .error e := by
  rw [bind_eq_error_iff, or_iff_left]
  rintro ⟨a, -, ha⟩
  obtain ⟨b, hb⟩ := hf a
  exact absurd (hb.symm.trans ha) (by simp)

/-- What holds of the result of a run, if there is one and it does, holds of a result. -/
theorem exists_ok_of_any {x : Except ε α} {p : α → Bool} (h : x.toOption.any p = true) :
    ∃ a, x = .ok a ∧ p a = true := by
  cases x with
  | error e => simp [Except.toOption] at h
  | ok a => exact ⟨a, rfl, by simpa [Except.toOption] using h⟩

/-- A list is worked through exactly if each of its elements is. -/
theorem mapM_eq_ok_iff {f : α → Except ε β} :
    ∀ {xs : List α} {ys : List β},
      xs.mapM f = .ok ys ↔ List.Forall₂ (fun x y => f x = .ok y) xs ys := by
  intro xs
  induction xs with
  | nil => intro ys; cases ys <;> simp [pure, Except.pure]
  | cons x xs ih =>
      intro ys
      rw [List.mapM_cons, bind_eq_ok_iff, List.forall₂_cons_left_iff]
      constructor
      · rintro ⟨y, hy, hrest⟩
        obtain ⟨rest, hxs, heq⟩ := bind_eq_ok_iff.mp hrest
        exact ⟨y, rest, hy, ih.mp hxs, (Except.ok.inj heq).symm⟩
      · rintro ⟨y, rest, hy, hxs, rfl⟩
        exact ⟨y, hy, bind_eq_ok_iff.mpr ⟨rest, ih.mpr hxs, rfl⟩⟩

/-- A list that is not worked through fails at one of its elements. -/
theorem exists_error_of_mapM {f : α → Except ε β} {e : ε} :
    ∀ {xs : List α}, xs.mapM f = .error e → ∃ x ∈ xs, f x = .error e := by
  intro xs
  induction xs with
  | nil => intro h; exact absurd h (by simp [pure, Except.pure])
  | cons x xs ih =>
      intro h
      rw [List.mapM_cons] at h
      rcases bind_eq_error_iff.mp h with hx | ⟨y, -, hrest⟩
      · exact ⟨x, by simp, hx⟩
      · obtain ⟨x', hx', herror⟩ := ih ((bind_eq_error_iff_left fun ys => ⟨y :: ys, rfl⟩).mp hrest)
        exact ⟨x', List.mem_cons_of_mem _ hx', herror⟩

theorem exists_of_forall₂_left {R : α → β → Prop} {xs : List α} {ys : List β}
    (h : List.Forall₂ R xs ys) : ∀ x ∈ xs, ∃ y ∈ ys, R x y := by
  induction h with
  | nil => simp
  | cons hxy _ ih =>
      intro x hx
      rcases List.mem_cons.mp hx with rfl | hx
      · exact ⟨_, by simp, hxy⟩
      · obtain ⟨y, hy, hR⟩ := ih x hx
        exact ⟨y, List.mem_cons_of_mem _ hy, hR⟩

theorem exists_of_forall₂_right {R : α → β → Prop} {xs : List α} {ys : List β}
    (h : List.Forall₂ R xs ys) : ∀ y ∈ ys, ∃ x ∈ xs, R x y :=
  exists_of_forall₂_left h.flip

/-- What is told alike of elements and of what corresponds to them gives the same list. -/
theorem map_of_forall₂ {f : α → γ} {g : β → γ} {xs : List α} {ys : List β}
    (h : List.Forall₂ (fun x y => g y = f x) xs ys) : ys.map g = xs.map f := by
  rw [← List.forall₂_eq_eq_eq, List.forall₂_map_left_iff, List.forall₂_map_right_iff]
  exact h.flip

theorem mapM_eq_ok_map {f : α → Except ε β} {g : α → β} {xs : List α}
    (h : ∀ x ∈ xs, f x = .ok (g x)) : xs.mapM f = .ok (xs.map g) := by
  rw [mapM_eq_ok_iff, List.forall₂_map_right_iff, List.forall₂_same]
  exact h

theorem exists_map_of_mapM [Inhabited β] {f : α → Except ε β} {xs : List α} {ys : List β}
    (h : xs.mapM f = .ok ys) : ∃ g : α → β, (∀ x ∈ xs, f x = .ok (g x)) ∧ ys = xs.map g := by
  let g : α → β := fun x => (f x).toOption.getD default
  have hg : ∀ {x y}, f x = .ok y → g x = y := by
    intro x y hxy
    simp only [g, hxy, Except.toOption, Option.getD_some]
  have hsteps := mapM_eq_ok_iff.mp h
  refine ⟨g, fun x hx => ?_, ?_⟩
  · obtain ⟨y, -, hxy⟩ := exists_of_forall₂_left hsteps x hx
    rw [hxy, hg hxy]
  · have hmap := map_of_forall₂ (f := g) (g := id) (hsteps.imp fun _ _ hxy => (hg hxy).symm)
    rwa [List.map_id] at hmap

theorem map_bind_ok {x : Except ε α} (g : α → β) (h : β → γ) :
    (x.map g >>= fun b => .ok (h b)) = x.map fun a => h (g a) := by
  cases x with
  | error e => rfl
  | ok a => rfl

/-- What becomes of a result matters only where there is one. -/
theorem map_congr {x : Except ε α} {f g : α → β} (h : ∀ a, x = .ok a → f a = g a) :
    x.map f = x.map g := by
  cases x with
  | error e => rfl
  | ok a => exact congrArg Except.ok (h a rfl)

/-- Steps that each fail or go on by themselves can be taken after all of them are known not to
fail. -/
theorem foldlM_eq_map_foldl {step : β → α → Except ε β} {f : α → Except ε γ} {g : β → γ → β}
    (hstep : ∀ b x, step b x = (f x).map (g b)) (xs : List α) :
    ∀ b, xs.foldlM step b = (xs.mapM f).map fun ys => ys.foldl g b := by
  induction xs with
  | nil => exact fun b => rfl
  | cons x xs ih =>
      intro b
      rw [List.foldlM_cons, List.mapM_cons, hstep]
      cases f x with
      | error e => rfl
      | ok y =>
          show xs.foldlM step (g b y) = _
          rw [ih]
          cases xs.mapM f with
          | error e => rfl
          | ok ys => rfl

theorem mapM_flatMap {g : α → List β} {f : β → Except ε γ} {xs : List α} :
    (xs.flatMap g).mapM f = (xs.mapM fun x => (g x).mapM f).map List.flatten := by
  induction xs with
  | nil => rfl
  | cons x xs ih =>
      rw [List.flatMap_cons, List.mapM_append, ih, List.mapM_cons]
      cases (g x).mapM f with
      | error e => rfl
      | ok ys =>
          cases xs.mapM fun x => (g x).mapM f with
          | error e => rfl
          | ok yss => rfl

/-! ### Two runs side by side -/

/-- Two runs that fail over the same or give results that are related. -/
inductive Agree (R : α → β → Prop) : Except ε α → Except ε β → Prop
  | ok {a : α} {b : β} (h : R a b) : Agree R (.ok a) (.ok b)
  | error (e : ε) : Agree R (.error e) (.error e)

namespace Agree

variable {R : α → β → Prop} {S : γ → δ → Prop} {x : Except ε α} {y : Except ε β}

theorem bind {f : α → Except ε γ} {g : β → Except ε δ} (h : Agree R x y)
    (hstep : ∀ {a b}, R a b → Agree S (f a) (g b)) : Agree S (x >>= f) (y >>= g) := by
  cases h with
  | ok hab => exact hstep hab
  | error e => exact .error e

theorem map {f : α → γ} {g : β → δ} (h : Agree R x y) (hmap : ∀ {a b}, R a b → S (f a) (g b)) :
    Agree S (x.map f) (y.map g) := by
  cases h with
  | ok hab => exact .ok (hmap hab)
  | error e => exact .error e

theorem mapM {f : γ → Except ε α} {g : γ → Except ε β} {xs : List γ}
    (h : ∀ x ∈ xs, Agree R (f x) (g x)) :
    Agree (List.Forall₂ R) (xs.mapM f) (xs.mapM g) := by
  induction xs with
  | nil => exact .ok .nil
  | cons x xs ih =>
      rw [List.mapM_cons, List.mapM_cons]
      refine bind (h x (by simp)) fun hab => ?_
      exact bind (ih fun x' hx' => h x' (List.mem_cons_of_mem x hx')) fun hrest =>
        .ok (.cons hab hrest)

theorem refl (x : Except ε α) : Agree (· = ·) x x := by
  cases x with
  | ok a => exact .ok rfl
  | error e => exact .error e

theorem eq {y : Except ε α} (h : Agree (· = ·) x y) : x = y := by
  cases h with
  | ok hab => rw [hab]
  | error e => rfl

end Agree

end DtoForge
