/-
When a value is read as the text that it was written for.

A value stands as an expression in the generated text, so it has to be a whole expression
and has to stand for the text: the truth values, numbers and arrays for themselves, and any
other text as a quoted string whose escapes give back its characters.

Two rules decide what is written: the first character alone says what stands for itself, and
of all characters only quotes are escaped.  The statements here say for which texts that is
enough.  A text with a backslash is never among them, since a backslash in a quoted string
always takes the next character with it: what is read has fewer characters than the text.
-/
import DtoForge.Proofs.ApiDoc.FieldOptions

namespace DtoForge.Literal

/-! ### Texts that stand for themselves -/

/-- One digit or more. -/
def IsDigits (s : List Char) : Prop :=
  s ≠ [] ∧ ∀ c ∈ s, c.isDigit = true

/-- A decimal number: digits, with a sign in front or not, and with a fraction or not. -/
def IsNumber (s : List Char) : Prop :=
  ∃ sign whole fraction, s = sign ++ whole ++ fraction ∧
    (sign = [] ∨ sign = ['-'] ∨ sign = ['+']) ∧ IsDigits whole ∧
    (fraction = [] ∨ ∃ digits, fraction = '.' :: digits ∧ IsDigits digits)

/-- A text in brackets. -/
def IsArray (s : List Char) : Prop :=
  ∃ inner, s = '[' :: inner ++ [']']

/-- A text that stands for itself. -/
def IsLiteral (s : List Char) : Prop :=
  s = "true".toList ∨ s = "false".toList ∨ IsNumber s ∨ IsArray s

/-! ### Quoted texts -/

/-- A line in the source text ends with one of these. -/
def isLineEnd (c : Char) : Bool :=
  c == '\n' || c == '\r'

/-- The character that a backslash and the given one stand for.  Escapes by code point, which
several characters follow, are not among these. -/
def escaped? (c : Char) : Option Char :=
  match c with
  | 'n' => some '\n'
  | 'r' => some '\r'
  | 't' => some '\t'
  | 'b' => some '\x08'
  | 'f' => some '\x0c'
  | 'v' => some '\x0b'
  | _ => if c == 'x' || c == 'u' || c.isDigit || isLineEnd c then none else some c

/-- What stands between the quotes, and the text that it is read as. -/
inductive IsBody : List Char → List Char → Prop
  /-- Nothing is read as nothing. -/
  | nil : IsBody [] []
  /-- A character stands for itself if it is no quote, no backslash and ends no line. -/
  | char {c : Char} {body text : List Char} (hquote : c ≠ '\'') (hbackslash : c ≠ '\\')
      (hline : isLineEnd c = false) (h : IsBody body text) : IsBody (c :: body) (c :: text)
  /-- A backslash takes the next character with it. -/
  | escape {c d : Char} {body text : List Char} (hescaped : escaped? c = some d)
      (h : IsBody body text) : IsBody ('\\' :: c :: body) (d :: text)

/-- The value is a quoted string that is read as the text. -/
def IsQuoted (value text : List Char) : Prop :=
  ∃ body, value = '\'' :: body ++ ['\''] ∧ IsBody body text

/-- The value is a whole expression for the text. -/
def Reads (value text : String) : Prop :=
  (IsLiteral text.toList → value = text) ∧
    (¬IsLiteral text.toList → IsQuoted value.toList text.toList)

/-- The text is told by the two rules. -/
inductive IsFit (s : List Char) : Prop
  /-- It stands for itself and has no sign. -/
  | literal (h : IsLiteral s) (unsigned : ∀ c ∈ s.head?, c ≠ '-' ∧ c ≠ '+') : IsFit s
  /-- It does not, its first character says so, and only its quotes have to be escaped. -/
  | quoted (h : ¬IsLiteral s) (begins : ∃ c ∈ s.head?, c.isDigit = false ∧ c ≠ '[')
      (plain : ∀ c ∈ s, c ≠ '\\' ∧ isLineEnd c = false) : IsFit s

/-! ### The first character -/

theorem IsNumber.head? {s : List Char} (h : IsNumber s) :
    ∃ c ∈ s.head?, c.isDigit = true ∨ c = '-' ∨ c = '+' := by
  obtain ⟨sign, whole, fraction, rfl, hsign, ⟨hne, hdigits⟩, -⟩ := h
  obtain ⟨c, whole, rfl⟩ := List.exists_cons_of_ne_nil hne
  rcases hsign with rfl | rfl | rfl
  · exact ⟨c, rfl, Or.inl (hdigits c (by simp))⟩
  · exact ⟨'-', rfl, Or.inr (Or.inl rfl)⟩
  · exact ⟨'+', rfl, Or.inr (Or.inr rfl)⟩

/-- What stands for itself is written so, unless it has a sign. -/
theorem IsLiteral.isBare_iff {s : List Char} (h : IsLiteral s) :
    isBare s = true ↔ ∀ c ∈ s.head?, c ≠ '-' ∧ c ≠ '+' := by
  rcases h with rfl | rfl | hnumber | ⟨inner, rfl⟩
  · simp [isBare]
  · simp [isBare]
  · obtain ⟨c, hc, hbegins⟩ := hnumber.head?
    obtain ⟨r, rfl⟩ := List.head?_eq_some_iff.mp hc
    rcases hbegins with hdigit | rfl | rfl
    · have hsign : c ≠ '-' ∧ c ≠ '+' := by
        constructor <;> rintro rfl <;> exact absurd hdigit (by decide)
      simpa [isBare, hdigit] using hsign
    · simp [isBare]
    · simp [isBare]
  · simp [isBare]

/-- The other texts that are written as they are begin like a number or an array, or are
empty. -/
theorem isBare_iff_of_not_isLiteral {s : List Char} (h : ¬IsLiteral s) :
    isBare s = true ↔ ¬∃ c ∈ s.head?, c.isDigit = false ∧ c ≠ '[' := by
  have htrue : (s == "true".toList) = false := by
    rw [beq_eq_false_iff_ne]
    exact fun hs => h (Or.inl hs)
  have hfalse : (s == "false".toList) = false := by
    rw [beq_eq_false_iff_ne]
    exact fun hs => h (Or.inr (Or.inl hs))
  cases s with
  | nil => simp [isBare]
  | cons c r =>
      simp only [isBare, htrue, hfalse, Bool.false_or, List.head?_cons, Option.all_some,
        Option.mem_def, Option.some.injEq, exists_eq_left', Bool.or_eq_true, beq_iff_eq]
      by_cases hdigit : c.isDigit = true
      · simp [hdigit]
      · simp [hdigit]

/-! ### Reading back what is quoted -/

theorem isLineEnd_of_escaped? {c d : Char} (h : escaped? c = some d) : isLineEnd c = false := by
  rw [Bool.eq_false_iff]
  intro hline
  have hnone : escaped? c = none := by
    rcases (by simpa [isLineEnd] using hline : c = '\n' ∨ c = '\r') with rfl | rfl <;> decide
  rw [hnone] at h
  exact absurd h (by simp)

theorem IsBody.isLineEnd_eq_false {body text : List Char} (h : IsBody body text) :
    ∀ c ∈ body, isLineEnd c = false := by
  induction h with
  | nil => simp
  | char hquote hbackslash hline h ih =>
      intro c hc
      rcases List.mem_cons.mp hc with rfl | hc
      · exact hline
      · exact ih c hc
  | @escape e d body text hescaped h ih =>
      intro c hc
      rcases List.mem_cons.mp hc with rfl | hc
      · decide
      rcases List.mem_cons.mp hc with rfl | hc
      · exact isLineEnd_of_escaped? hescaped
      · exact ih c hc

theorem escapeQuotes_quote (r : List Char) :
    escapeQuotes ('\'' :: r) = '\\' :: '\'' :: escapeQuotes r := rfl

theorem escapeQuotes_cons {c : Char} (hc : c ≠ '\'') (r : List Char) :
    escapeQuotes (c :: r) = c :: escapeQuotes r := by
  simp [escapeQuotes, hc]

theorem mem_escapeQuotes {c : Char} {s : List Char} (h : c ∈ s) : c ∈ escapeQuotes s := by
  refine List.mem_flatMap.mpr ⟨c, h, ?_⟩
  by_cases hc : c = '\''
  · simp [hc]
  · simp [hc]

theorem isBody_escapeQuotes {s : List Char} (h : ∀ c ∈ s, c ≠ '\\' ∧ isLineEnd c = false) :
    IsBody (escapeQuotes s) s := by
  induction s with
  | nil => exact IsBody.nil
  | cons c r ih =>
      have hr : IsBody (escapeQuotes r) r := ih fun d hd => h d (by simp [hd])
      by_cases hc : c = '\''
      · subst hc
        exact IsBody.escape (by decide) hr
      · rw [escapeQuotes_cons hc]
        have hplain := h c (by simp)
        exact IsBody.char hc hplain.1 hplain.2 hr

theorem not_isBody_quote (body text : List Char) : ¬IsBody ('\'' :: body) text := by
  intro h
  cases h with
  | char hquote hbackslash hline h => exact hquote rfl

theorem IsBody.of_backslash {c : Char} {body text : List Char}
    (h : IsBody ('\\' :: c :: body) text) :
    ∃ d rest, text = d :: rest ∧ IsBody body rest := by
  cases h with
  | char hquote hbackslash hline h => exact absurd rfl hbackslash
  | escape hescaped h => exact ⟨_, _, rfl, h⟩

theorem IsBody.of_ne_backslash {c : Char} {body text : List Char} (hc : c ≠ '\\')
    (h : IsBody (c :: body) text) : ∃ rest, text = c :: rest ∧ IsBody body rest := by
  cases h with
  | char hquote hbackslash hline h => exact ⟨_, rfl, h⟩
  | escape hescaped h => exact absurd rfl hc

/-- A backslash of the text takes a character of the text with it when it is read, so what is
read is shorter than the text. -/
theorem length_of_isBody {s : List Char} :
    (∀ text, IsBody (escapeQuotes s) text →
      text.length ≤ s.length ∧ ('\\' ∈ s → text.length < s.length)) ∧
    ∀ text, IsBody ('\\' :: escapeQuotes s) text → text.length ≤ s.length := by
  -- the second half is the place behind a backslash, where the next character is taken
  induction s with
  | nil =>
      constructor
      · intro text h
        cases h
        exact ⟨Nat.le_refl _, by simp⟩
      · intro text h
        cases h with
        | char hquote hbackslash hline h => exact absurd rfl hbackslash
  | cons c r ih =>
      obtain ⟨ihread, ihtaken⟩ := ih
      by_cases hc : c = '\''
      · subst hc
        rw [escapeQuotes_quote]
        constructor
        · intro text h
          obtain ⟨d, rest, rfl, hrest⟩ := h.of_backslash
          obtain ⟨hle, hlt⟩ := ihread rest hrest
          refine ⟨Nat.succ_le_succ hle, fun hmem => ?_⟩
          exact Nat.succ_lt_succ (hlt (by simpa using hmem))
        · intro text h
          obtain ⟨d, rest, rfl, hrest⟩ := h.of_backslash
          exact absurd hrest (not_isBody_quote _ _)
      · rw [escapeQuotes_cons hc]
        constructor
        · intro text h
          by_cases hbackslash : c = '\\'
          · subst hbackslash
            have hle := ihtaken text h
            simp only [List.length_cons]
            exact ⟨by omega, fun _ => by omega⟩
          · obtain ⟨rest, rfl, hrest⟩ := h.of_ne_backslash hbackslash
            obtain ⟨hle, hlt⟩ := ihread rest hrest
            refine ⟨Nat.succ_le_succ hle, fun hmem => ?_⟩
            exact Nat.succ_lt_succ (hlt (by simpa [Ne.symm hbackslash] using hmem))
        · intro text h
          obtain ⟨d, rest, rfl, hrest⟩ := h.of_backslash
          exact Nat.succ_le_succ (ihread rest hrest).1

/-- Escaping quotes is enough exactly for a text without backslashes and line ends. -/
theorem isQuoted_escapeQuotes_iff (s : List Char) :
    IsQuoted ('\'' :: escapeQuotes s ++ ['\'']) s ↔
      ∀ c ∈ s, c ≠ '\\' ∧ isLineEnd c = false := by
  constructor
  · rintro ⟨body, hbody, h⟩
    have hsame : escapeQuotes s = body := by
      rw [List.cons_append, List.cons_append, List.cons.injEq] at hbody
      exact List.append_cancel_right hbody.2
    subst hsame
    intro c hc
    refine ⟨?_, h.isLineEnd_eq_false c (mem_escapeQuotes hc)⟩
    rintro rfl
    exact absurd ((length_of_isBody.1 s h).2 hc) (Nat.lt_irrefl _)
  · intro h
    exact ⟨escapeQuotes s, rfl, isBody_escapeQuotes h⟩

/-! ### What is told -/

theorem IsQuoted.head? {value text : List Char} (h : IsQuoted value text) :
    value.head? = some '\'' := by
  obtain ⟨body, rfl, -⟩ := h
  rfl

theorem isBare_of_quote (r : List Char) : isBare ('\'' :: r) = false := by
  simp [isBare]

theorem encode_eq_self_iff {s : List Char} (h : IsLiteral s) :
    encode s = s ↔ ∀ c ∈ s.head?, c ≠ '-' ∧ c ≠ '+' := by
  rw [← h.isBare_iff]
  constructor
  · intro hself
    by_cases hbare : isBare s = true
    · exact hbare
    -- a quoted text begins with a quote, which is no sign
    · rw [encode, if_neg hbare] at hself
      rw [h.isBare_iff, ← hself]
      simp
  · intro hbare
    rw [encode, if_pos hbare]

/-- What does not stand for itself is told if its first character says so and only quotes have
to be escaped. -/
theorem isQuoted_encode_iff {s : List Char} (h : ¬IsLiteral s) :
    IsQuoted (encode s) s ↔
      (∃ c ∈ s.head?, c.isDigit = false ∧ c ≠ '[') ∧ ∀ c ∈ s, c ≠ '\\' ∧ isLineEnd c = false := by
  by_cases hbare : isBare s = true
  · rw [encode, if_pos hbare]
    constructor
    · intro hquoted
      obtain ⟨r, rfl⟩ := List.head?_eq_some_iff.mp hquoted.head?
      rw [isBare_of_quote] at hbare
      exact absurd hbare (by decide)
    · rintro ⟨hbegins, -⟩
      exact absurd hbegins ((isBare_iff_of_not_isLiteral h).mp hbare)
  · have hbegins : ∃ c ∈ s.head?, c.isDigit = false ∧ c ≠ '[' :=
      Classical.not_not.mp fun hbegins => hbare ((isBare_iff_of_not_isLiteral h).mpr hbegins)
    rw [encode, if_neg hbare, isQuoted_escapeQuotes_iff]
    exact ⟨fun hplain => ⟨hbegins, hplain⟩, fun hplain => hplain.2⟩

/-- The two rules tell exactly the texts that fit them. -/
theorem reads_ofText_iff (text : String) : Reads (ofText text) text ↔ IsFit text.toList := by
  have hvalue : (ofText text).toList = encode text.toList := String.toList_ofList
  unfold Reads
  rw [← String.toList_inj, hvalue]
  constructor
  · rintro ⟨hself, hquoted⟩
    by_cases hliteral : IsLiteral text.toList
    · exact IsFit.literal hliteral ((encode_eq_self_iff hliteral).mp (hself hliteral))
    · obtain ⟨hbegins, hplain⟩ := (isQuoted_encode_iff hliteral).mp (hquoted hliteral)
      exact IsFit.quoted hliteral hbegins hplain
  · intro h
    cases h with
    | literal hliteral hunsigned =>
        exact ⟨fun _ => (encode_eq_self_iff hliteral).mpr hunsigned, fun h => absurd hliteral h⟩
    | quoted hliteral hbegins hplain =>
        exact ⟨fun h => absurd h hliteral,
          fun _ => (isQuoted_encode_iff hliteral).mpr ⟨hbegins, hplain⟩⟩

/-- **A value is told exactly if its first character says what it is and only its quotes have
to be escaped.**

The same holds of the options whose values come from texts: of the default of a field, and of
what the documentation gives under a tag. -/
theorem reads_iff_isFit (text : String) :
    (Reads (ofText text) text ↔ IsFit text.toList) ∧
      (∀ f : Field, f.hasDefaultValue = true → f.defaultValue = some (.string text) →
        ∃ p, ApiProperty.ofDefault f = [p] ∧ (Reads p.value text ↔ IsFit text.toList)) ∧
      ∀ documentation, ∀ p ∈ ApiProperty.ofDocumentation documentation,
        DocTag.value? documentation p.name = some text →
          (Reads p.value text ↔ IsFit text.toList) := by
  have hfit := reads_ofText_iff text
  refine ⟨hfit, ?_, ?_⟩
  · intro f hdefault hvalue
    refine ⟨⟨"default", ofText text⟩, ?_, hfit⟩
    simp [ApiProperty.ofDefault, hdefault, hvalue, ApiProperty.defaultText?]
  · intro documentation p hp hvalue
    obtain ⟨tag, -, hmap⟩ := List.mem_filterMap.mp hp
    obtain ⟨found, hfound, rfl⟩ := Option.map_eq_some_iff.mp hmap
    have hsame : found = text := by
      rw [← Option.some.injEq, ← hfound, ← hvalue]
      rfl
    rw [hsame]
    exact hfit

/-- The backslash at the end of a text takes the closing quote with it. -/
theorem not_reads_backslash : ¬∀ text : String, Reads (ofText text) text := by
  intro h
  have hliteral : ¬IsLiteral "C:\\".toList := by
    rintro (h | h | h | ⟨inner, h⟩)
    · exact absurd h (by decide)
    · exact absurd h (by decide)
    · obtain ⟨c, hc, hbegins⟩ := h.head?
      obtain rfl : c = 'C' := by simpa using hc.symm
      exact absurd hbegins (by decide)
    · simp at h
  obtain ⟨-, hplain⟩ := (isQuoted_encode_iff hliteral).mp (by
    simpa [ofText] using (h "C:\\").2 hliteral)
  exact (hplain '\\' (by decide)).1 rfl

end DtoForge.Literal
