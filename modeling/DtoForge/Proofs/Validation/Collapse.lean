/-
Which object of a text counts as one argument.

An object is an opening brace, a text without a line feed, and a closing brace.  Where there are
several, the leftmost one counts, and it is taken as long as it can be: it begins at the first
opening brace that is closed on its line, and ends with the last brace that closes there.  So it is
one stretch of the text and no other, whatever braces are inside of it, and what surrounds it is
kept.

The same stretch is found by byte offsets, with a search for each end of it.  What is cut there
begins and ends next to a brace or a line feed, and these are one byte long each, so no cut goes
through a character.
-/
import DtoForge.Proofs.Text.Offset
import DtoForge.Proofs.Text.Search
import DtoForge.Validation.Each

namespace DtoForge.Each

open String (utf8Len)

/-! ### Braces that are closed on their line -/

/-- A closing brace follows on the same line. -/
def ClosesOnLine (rest : List Char) : Prop :=
  ∃ inner behind, rest = inner ++ '\x7d' :: behind ∧ '\n' ∉ inner

/-- Some opening brace is closed on its line. -/
def HasObject (s : List Char) : Prop :=
  ∃ before rest, s = before ++ '\x7b' :: rest ∧ ClosesOnLine rest

theorem not_closesOnLine_nil : ¬ClosesOnLine [] := by
  rintro ⟨inner, behind, h, -⟩
  simp at h

theorem not_hasObject_nil : ¬HasObject [] := by
  rintro ⟨before, rest, h, -⟩
  simp at h

theorem closesOnLine_cons_iff {c : Char} {r : List Char} :
    ClosesOnLine (c :: r) ↔ c ≠ '\n' ∧ (c = '\x7d' ∨ ClosesOnLine r) := by
  constructor
  · rintro ⟨inner, behind, h, hline⟩
    cases inner with
    | nil =>
        obtain ⟨rfl, -⟩ := List.cons.inj h
        exact ⟨by decide, Or.inl rfl⟩
    | cons d inner =>
        obtain ⟨rfl, hr⟩ := List.cons.inj h
        simp only [List.mem_cons, not_or] at hline
        exact ⟨Ne.symm hline.1, Or.inr ⟨inner, behind, hr, hline.2⟩⟩
  · rintro ⟨hc, rfl | ⟨inner, behind, rfl, hline⟩⟩
    · exact ⟨[], r, rfl, by simp⟩
    · exact ⟨c :: inner, behind, rfl, by simp [Ne.symm hc, hline]⟩

theorem hasObject_cons_iff {c : Char} {r : List Char} :
    HasObject (c :: r) ↔ (c = '\x7b' ∧ ClosesOnLine r) ∨ HasObject r := by
  constructor
  · rintro ⟨before, rest, h, hcloses⟩
    cases before with
    | nil =>
        obtain ⟨rfl, rfl⟩ := List.cons.inj h
        exact Or.inl ⟨rfl, hcloses⟩
    | cons d before => exact Or.inr ⟨before, rest, (List.cons.inj h).2, hcloses⟩
  · rintro (⟨rfl, hcloses⟩ | ⟨before, rest, rfl, hcloses⟩)
    · exact ⟨[], r, rfl, hcloses⟩
    · exact ⟨c :: before, rest, rfl, hcloses⟩

theorem afterLastBrace?_eq_none_iff {r : List Char} :
    afterLastBrace? r = none ↔ ¬ClosesOnLine r := by
  induction r with
  | nil => simp [afterLastBrace?, not_closesOnLine_nil]
  | cons c r ih =>
      rw [closesOnLine_cons_iff, afterLastBrace?]
      by_cases hc : c = '\n'
      · simp [hc]
      · rw [if_neg hc]
        cases hr : afterLastBrace? r with
        | none =>
            have hnone := ih.mp hr
            by_cases hbrace : c = '\x7d' <;> simp [hbrace, hc, hnone]
        | some behind =>
            have hcloses : ClosesOnLine r := by
              by_contra hnot
              rw [ih.mpr hnot] at hr
              exact absurd hr (by simp)
            simp [hc, hcloses]

theorem of_afterLastBrace? {r behind : List Char} (h : afterLastBrace? r = some behind) :
    ∃ inner, r = inner ++ '\x7d' :: behind ∧ '\n' ∉ inner ∧ ¬ClosesOnLine behind := by
  induction r with
  | nil => simp [afterLastBrace?] at h
  | cons c r ih =>
      rw [afterLastBrace?] at h
      by_cases hc : c = '\n'
      · simp [hc] at h
      · rw [if_neg hc] at h
        cases hr : afterLastBrace? r with
        | some found =>
            rw [hr] at h
            obtain ⟨inner, rfl, hline, hlast⟩ := ih (hr.trans h)
            exact ⟨c :: inner, rfl, by simp [Ne.symm hc, hline], hlast⟩
        | none =>
            simp only [hr] at h
            by_cases hbrace : c = '\x7d'
            · rw [if_pos hbrace, Option.some.injEq] at h
              subst hbrace
              exact ⟨[], by rw [h]; rfl, by simp, h ▸ afterLastBrace?_eq_none_iff.mp hr⟩
            · simp [hbrace] at h

theorem not_mem_line {line rest : List Char} (h : ¬ClosesOnLine (line ++ rest))
    (hline : '\n' ∉ line) : '\x7d' ∉ line := by
  intro hmem
  obtain ⟨inner, behind, rfl⟩ := List.append_of_mem hmem
  rw [List.mem_append, not_or] at hline
  exact h ⟨inner, behind ++ rest, List.append_assoc .., hline.1⟩

/-! ### The first object -/

/-- The object around `inner`, between `before` and `behind`, is the one that counts. -/
structure IsFirstObject (s before inner behind : List Char) : Prop where
  cut : s = before ++ '\x7b' :: (inner ++ '\x7d' :: behind)
  line : '\n' ∉ inner
  /-- No brace further to the left is closed on its line. -/
  leftmost : ∀ x y, before = x ++ '\x7b' :: y →
    ¬ClosesOnLine (y ++ '\x7b' :: (inner ++ '\x7d' :: behind))
  /-- No brace further to the right closes on the line. -/
  longest : ¬ClosesOnLine behind

namespace IsFirstObject

variable {s before inner behind before' inner' behind' : List Char}

/-- A character in front of the object changes nothing, unless it begins an object itself. -/
theorem cons (h : IsFirstObject s before inner behind) {c : Char}
    (hc : ¬(c = '\x7b' ∧ ClosesOnLine s)) : IsFirstObject (c :: s) (c :: before) inner behind where
  cut := by rw [h.cut]; rfl
  line := h.line
  leftmost := by
    intro x y hcut hcloses
    cases x with
    | nil =>
        obtain ⟨rfl, rfl⟩ := List.cons.inj hcut
        exact hc ⟨rfl, h.cut ▸ hcloses⟩
    | cons d x => exact h.leftmost x y (List.cons.inj hcut).2 hcloses
  longest := h.longest

theorem closesOnLine (h : IsFirstObject s before inner behind) :
    ClosesOnLine (inner ++ '\x7d' :: behind) :=
  ⟨inner, behind, rfl, h.line⟩

/-- There is no other object that counts. -/
theorem unique (h : IsFirstObject s before inner behind)
    (h' : IsFirstObject s before' inner' behind') :
    before' = before ∧ inner' = inner ∧ behind' = behind := by
  have hbefore : before = before' ∧ inner ++ '\x7d' :: behind = inner' ++ '\x7d' :: behind' := by
    rcases Text.mark_cases (h.cut.symm.trans h'.cut) with hsame | ⟨y, hx, hr⟩ | ⟨y, hx, hr⟩
    · exact hsame
    · exact absurd (hr ▸ h.closesOnLine) (h'.leftmost before y hx)
    · exact absurd (hr ▸ h'.closesOnLine) (h.leftmost before' y hx)
  have hinner : inner = inner' ∧ behind = behind' := by
    -- the text between the two braces is inside of the longer object, so the line goes on there
    rcases Text.mark_cases hbefore.2 with hsame | ⟨y, hx, hr⟩ | ⟨y, hx, hr⟩
    · exact hsame
    · have hy : '\n' ∉ y := fun hmem => h'.line (by simp [hx, hmem])
      exact absurd ⟨y, behind', hr, hy⟩ h.longest
    · have hy : '\n' ∉ y := fun hmem => h.line (by simp [hx, hmem])
      exact absurd ⟨y, behind, hr, hy⟩ h'.longest
  exact ⟨hbefore.1.symm, hinner.1.symm, hinner.2.symm⟩

end IsFirstObject

theorem collapse_of_not_hasObject {s : List Char} (h : ¬HasObject s) : collapse s = s := by
  induction s with
  | nil => rfl
  | cons c r ih =>
      rw [hasObject_cons_iff, not_or] at h
      rw [collapse, ih h.2]
      split
      · rename_i hc
        rw [afterLastBrace?_eq_none_iff.mpr fun hcloses => h.1 ⟨hc, hcloses⟩]
      · rfl

/-- With one, the first object becomes one character. -/
theorem exists_isFirstObject {s : List Char} (h : HasObject s) :
    ∃ before inner behind, IsFirstObject s before inner behind ∧
      collapse s = before ++ '_' :: behind := by
  induction s with
  | nil => exact absurd h not_hasObject_nil
  | cons c r ih =>
      by_cases hfirst : c = '\x7b' ∧ ClosesOnLine r
      · obtain ⟨rfl, hcloses⟩ := hfirst
        cases hr : afterLastBrace? r with
        | none => exact absurd hcloses (afterLastBrace?_eq_none_iff.mp hr)
        | some behind =>
            obtain ⟨inner, hcut, hline, hlast⟩ := of_afterLastBrace? hr
            refine ⟨[], inner, behind, ⟨by rw [hcut]; rfl, hline, by simp, hlast⟩, ?_⟩
            rw [collapse, if_pos rfl, hr]
            rfl
      · have hr : HasObject r := (hasObject_cons_iff.mp h).resolve_left hfirst
        obtain ⟨before, inner, behind, hobject, hcollapse⟩ := ih hr
        refine ⟨c :: before, inner, behind, hobject.cons hfirst, ?_⟩
        rw [collapse, hcollapse]
        split
        · rename_i hc
          rw [afterLastBrace?_eq_none_iff.mpr fun hcloses => hfirst ⟨hc, hcloses⟩]
          rfl
        · rfl

/-! ### The same search by byte offsets -/

/-- What follows the offset `first` on its line, where a brace stands at `first`. -/
def lineAfter? (s : String) (first : Nat) : Option String := do
  let rest ← Text.slice? s first s.utf8ByteSize
  let stop := (Text.offsetsOf '\n' rest.toList).head?.elim s.utf8ByteSize (first + ·)
  Text.slice? s (first + 1) stop

/-- The text with one character between two offsets. -/
def replaceBetween? (s : String) (first last : Nat) : Option String := do
  let before ← Text.slice? s 0 first
  let behind ← Text.slice? s last s.utf8ByteSize
  some (before ++ "_" ++ behind)

/-- The search from the opening braces at the given offsets on. -/
def scanFrom? (s : String) : List Nat → Option String
  | [] => some s
  | first :: later => do
    let line ← lineAfter? s first
    match (Text.offsetsOf '\x7d' line.toList).getLast? with
    | some offset => replaceBetween? s first (first + 1 + offset + 1)
    | none => scanFrom? s later

/-- The text with its first object made one character.  There is no result if a cut goes through
a character. -/
def scan? (s : String) : Option String :=
  scanFrom? s (Text.offsetsOf '\x7b' s.toList)

/-- A brace at `first` is one byte long, so a cut behind it goes through no character. -/
theorem utf8Len_brace (before inner : List Char) :
    utf8Len (before ++ '\x7b' :: inner) = utf8Len before + 1 + utf8Len inner := by
  rw [String.utf8Len_append, String.utf8Len_cons, Nat.add_assoc, Nat.add_comm (utf8Len inner)]
  rfl

theorem lineAfter?_eq (before line : List Char) {rest : List Char} (hline : '\n' ∉ line)
    (hrest : ∀ c ∈ rest.head?, c = '\n') :
    lineAfter? (String.ofList (before ++ '\x7b' :: (line ++ rest))) (utf8Len before)
      = some (String.ofList line) := by
  have hbrace : '\n' ∉ '\x7b' :: line := by simp [hline]
  have hstop : (Text.offsetsOf '\n' ('\x7b' :: (line ++ rest))).head?.elim
      (String.ofList (before ++ '\x7b' :: (line ++ rest))).utf8ByteSize (utf8Len before + ·)
      = utf8Len before + 1 + utf8Len line := by
    cases rest with
    | nil =>
        rw [List.append_nil, Text.offsetsOf_eq_nil hbrace, String.utf8ByteSize_ofList]
        exact utf8Len_brace before line
    | cons c rest =>
        obtain rfl : c = '\n' := hrest c rfl
        rw [← List.cons_append, Text.head?_offsetsOf hbrace]
        exact (String.utf8Len_append before _).symm.trans (utf8Len_brace before line)
  have hcut := Text.slice?_append (before ++ ['\x7b']) line rest
  rw [utf8Len_brace before [], List.append_assoc] at hcut
  rw [lineAfter?, Text.slice?_suffix, Option.bind_eq_bind, Option.bind_some, String.toList_ofList,
    hstop]
  exact hcut

theorem replaceBetween?_eq (before inner behind : List Char) :
    replaceBetween? (String.ofList (before ++ (inner ++ behind))) (utf8Len before)
        (utf8Len (before ++ inner))
      = some (String.ofList (before ++ '_' :: behind)) := by
  have hbehind := Text.slice?_suffix (before ++ inner) behind
  rw [List.append_assoc] at hbehind
  rw [replaceBetween?, Text.slice?_prefix, hbehind]
  simp [String.append_assoc]

/-- From some place on, the search by offsets finds what the search by characters finds there. -/
theorem scanFrom?_eq (s before : List Char) :
    scanFrom? (String.ofList (before ++ s)) ((Text.offsetsOf '\x7b' s).map (utf8Len before + ·))
      = some (String.ofList (before ++ collapse s)) := by
  induction s generalizing before with
  | nil => simp [Text.offsetsOf, scanFrom?, collapse]
  | cons c r ih =>
      -- the places in `r` are counted from behind `c`
      have hlater : ((Text.offsetsOf '\x7b' r).map (c.utf8Size + ·)).map (utf8Len before + ·)
          = (Text.offsetsOf '\x7b' r).map (utf8Len (before ++ [c]) + ·) := by
        rw [List.map_map]
        refine List.map_congr_left fun n _ => ?_
        simp [Nat.add_assoc]
      have hskip := ih (before ++ [c])
      rw [← hlater, List.append_assoc, List.append_assoc] at hskip
      by_cases hc : c = '\x7b'
      · subst hc
        rw [Text.offsetsOf, if_pos rfl, List.map_cons, scanFrom?, collapse, if_pos rfl]
        cases hr : afterLastBrace? r with
        | none =>
            obtain ⟨line, rest, rfl, hline, hrest⟩ := Text.exists_line r
            have hopen := not_mem_line (afterLastBrace?_eq_none_iff.mp hr) hline
            rw [Nat.add_zero, lineAfter?_eq before line hline hrest, Option.bind_eq_bind,
              Option.bind_some, String.toList_ofList, Text.offsetsOf_eq_nil hopen]
            exact hskip
        | some behind =>
            obtain ⟨inner, rfl, hinner, hlast⟩ := of_afterLastBrace? hr
            obtain ⟨x, rest, rfl, hx, hrest⟩ := Text.exists_line behind
            have hopen := not_mem_line hlast hx
            have hline : '\n' ∉ inner ++ '\x7d' :: x := by simp [hinner, hx]
            have hfound := lineAfter?_eq before _ hline hrest
            have hreplaced := replaceBetween?_eq before ('\x7b' :: (inner ++ ['\x7d'])) (x ++ rest)
            have hends : utf8Len (before ++ '\x7b' :: (inner ++ ['\x7d']))
                = utf8Len before + 1 + utf8Len inner + 1 := by
              rw [utf8Len_brace, String.utf8Len_append]
              rfl
            simp only [hends, List.cons_append, List.append_assoc, List.nil_append]
              at hfound hreplaced ⊢
            rw [Nat.add_zero, hfound, Option.bind_eq_bind, Option.bind_some, String.toList_ofList,
              Text.getLast?_offsetsOf hopen]
            exact hreplaced
      · rw [Text.offsetsOf, if_neg hc, collapse, if_neg hc]
        exact hskip

/-! ### What becomes one character -/

/-- A text without an object stays as it is.  Any other text has one first object, which becomes
one character.  The search by offsets gives the same text and makes no cut through a character. -/
theorem collapse_firstObject (s : List Char) :
    (¬HasObject s → collapse s = s) ∧
    (HasObject s → ∃ before inner behind,
      IsFirstObject s before inner behind ∧
      (∀ before' inner' behind', IsFirstObject s before' inner' behind' →
        before' = before ∧ inner' = inner ∧ behind' = behind) ∧
      collapse s = before ++ '_' :: behind) ∧
    scan? (String.ofList s) = some (String.ofList (collapse s)) := by
  refine ⟨collapse_of_not_hasObject, fun h => ?_, ?_⟩
  · obtain ⟨before, inner, behind, hfirst, hcollapse⟩ := exists_isFirstObject h
    exact ⟨before, inner, behind, hfirst, fun _ _ _ hother => hfirst.unique hother, hcollapse⟩
  · have hscan := scanFrom?_eq s []
    rw [scan?, String.toList_ofList]
    simpa using hscan

/-- The first brace is not closed on its line, and the line below has two objects, with characters
of two bytes inside of them and around. -/
def accented : List Char :=
  "\x7b ä\n1, \x7b é: \x7b\x7d \x7d; \x7b\x7d ü\n\x7d".toList

theorem collapse_firstObject_accented :
    (¬HasObject ['\x7b', '\n', '\x7d'] ∧
      collapse ['\x7b', '\n', '\x7d'] = ['\x7b', '\n', '\x7d']) ∧
    (HasObject accented ∧ ∃ before inner behind,
      IsFirstObject accented before inner behind ∧
      (∀ before' inner' behind', IsFirstObject accented before' inner' behind' →
        before' = before ∧ inner' = inner ∧ behind' = behind) ∧
      collapse accented = before ++ '_' :: behind) ∧
    scan? (String.ofList accented) = some "\x7b ä\n1, _ ü\n\x7d" := by
  have hnone : ¬HasObject ['\x7b', '\n', '\x7d'] := by
    simp [hasObject_cons_iff, closesOnLine_cons_iff, not_hasObject_nil]
  have hobject : HasObject accented :=
    ⟨"\x7b ä\n1, ".toList, " é: \x7b\x7d \x7d; \x7b\x7d ü\n\x7d".toList, by decide +kernel,
      " é: \x7b".toList, " \x7d; \x7b\x7d ü\n\x7d".toList, by decide +kernel, by decide +kernel⟩
  have hcollapse : String.ofList (collapse accented) = "\x7b ä\n1, _ ü\n\x7d" := by
    decide +kernel
  obtain ⟨-, hfirst, hscan⟩ := collapse_firstObject accented
  exact ⟨⟨hnone, (collapse_firstObject _).1 hnone⟩, ⟨hobject, hfirst hobject⟩,
    hcollapse ▸ hscan⟩

end DtoForge.Each
