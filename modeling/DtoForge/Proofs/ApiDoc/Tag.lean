/-
Which text of a documentation a tag takes as its value.

A tag is followed by white space and by the text up to the end of a line.  The white space
may hold line feeds, so that line need not be the line of the tag: where nothing else stands
behind the tag on its own line, the value is the next line that is not blank, and that may be
another tag with its value.

So the statements here keep two things apart.  What is read is cut out of the documentation
behind the leftmost tag that white space follows.  It stands on the line of the tag exactly
if no line feed is in the white space between them.
-/
import Mathlib.Data.List.TakeWhile
import DtoForge.Proofs.ApiDoc.FieldOptions
import DtoForge.Proofs.Text.Search

namespace DtoForge.DocTag

/-! ### Lines and tags -/

/-- The text without the white space around it. -/
def trimmed (text : String) : String :=
  String.ofList (Text.trim text.toList)

/-- Something other than white space is in the text. -/
def HasText (text : String) : Prop :=
  ∃ c ∈ text.toList, isBlank c = false

/-- A line ends before the text. -/
def AtLineEnd (rest : String) : Prop :=
  ∀ c ∈ rest.toList.head?, c = '\n'

/-- Behind the tag that follows `before`, the rest of its line is white space and `text`. -/
def OnLine (documentation tag before text : String) : Prop :=
  ∃ gap rest, documentation = before ++ "@" ++ tag ++ gap ++ text ++ rest ∧
    gap ≠ "" ∧ (∀ c ∈ gap.toList, isBlank c = true ∧ c ≠ '\n') ∧
    '\n' ∉ text.toList ∧ AtLineEnd rest

/-- The tag that follows `before` is the one that counts, and `text` is what it takes. -/
structure IsRead (documentation tag before gap text rest : String) : Prop where
  /-- The documentation around the tag. -/
  cut : documentation = before ++ "@" ++ tag ++ gap ++ text ++ rest
  /-- No tag that white space follows stands further to the left. -/
  least : ∀ b r, documentation = b ++ "@" ++ tag ++ r → (∃ c ∈ r.toList.head?, isBlank c = true) →
    before.length ≤ b.length
  /-- White space separates the tag and what it takes. -/
  gap_ne : gap ≠ ""
  blank : ∀ c ∈ gap.toList, isBlank c = true
  /-- What it takes begins with something else and goes to the end of a line. -/
  begins : ∃ c ∈ text.toList.head?, isBlank c = false
  line : '\n' ∉ text.toList
  ends : AtLineEnd rest

/-! ### What follows a tag -/

/-- White space is followed by a text up to the end of its line. -/
theorem valueAfter_eq {gap text rest : List Char} (hgap : ∀ c ∈ gap, isBlank c = true)
    (hbegins : ∃ c ∈ text.head?, isBlank c = false) (hline : '\n' ∉ text)
    (hends : ∀ c ∈ rest.head?, c = '\n') :
    valueAfter (gap ++ (text ++ rest)) = Text.trim text := by
  obtain ⟨c, hc, hblank⟩ := hbegins
  obtain ⟨r, rfl⟩ := List.head?_eq_some_iff.mp hc
  have hdrop : (gap ++ (c :: r ++ rest)).dropWhile isBlank = c :: r ++ rest := by
    rw [List.dropWhile_append_of_pos hgap, List.cons_append,
      List.dropWhile_cons_of_neg (by simp [hblank])]
  have htake : (c :: r ++ rest).takeWhile (· != '\n') = c :: r := by
    have hinside : ∀ d ∈ c :: r, (d != '\n') = true := by
      intro d hd
      rw [bne_iff_ne]
      rintro rfl
      exact hline hd
    rw [List.takeWhile_append_of_pos hinside]
    cases rest with
    | nil => simp
    | cons d rest => simp [hends d rfl]
  rw [valueAfter, hdrop, htake]

theorem trim_ne_nil {text : List Char} (h : ∃ c ∈ text.head?, isBlank c = false) :
    Text.trim text ≠ [] := by
  obtain ⟨c, hc, hblank⟩ := h
  obtain ⟨r, rfl⟩ := List.head?_eq_some_iff.mp hc
  unfold Text.trim Text.trimStart
  rw [List.dropWhile_cons_of_neg (by simp [hblank]), Text.trimEnd]
  cases Text.trimEnd r with
  | nil => simp [hblank]
  | cons d kept => simp

theorem valueAfter_eq_nil {r : List Char} (h : ∀ c ∈ r, isBlank c = true) :
    valueAfter r = [] := by
  unfold valueAfter
  rw [List.dropWhile_eq_nil_iff.mpr h]
  rfl

theorem exists_cut {r : List Char} (h : ∃ c ∈ r, isBlank c = false) :
    ∃ gap text rest, r = gap ++ (text ++ rest) ∧ (∀ c ∈ gap, isBlank c = true) ∧
      (∃ c ∈ text.head?, isBlank c = false) ∧ '\n' ∉ text ∧ ∀ c ∈ rest.head?, c = '\n' := by
  obtain ⟨text, rest, hcut, hline, hends⟩ := Text.exists_line (r.dropWhile isBlank)
  refine ⟨r.takeWhile isBlank, text, rest, ?_, fun c hc => List.mem_takeWhile_imp hc, ?_, hline,
    hends⟩
  · rw [← hcut, List.takeWhile_append_dropWhile]
  have hstop := List.head?_dropWhile_not isBlank r
  cases text with
  | cons c text =>
      rw [hcut] at hstop
      exact ⟨c, rfl, by simpa using hstop⟩
  | nil =>
      -- what is left begins with no white space, so the line cannot end there
      cases rest with
      | nil =>
          obtain ⟨c, hc, hfilled⟩ := h
          have hblank := List.dropWhile_eq_nil_iff.mp hcut c hc
          rw [hfilled] at hblank
          exact absurd hblank (by decide)
      | cons d rest =>
          obtain rfl : d = '\n' := hends d rfl
          rw [hcut] at hstop
          have hfeed : isBlank '\n' = false := hstop
          exact absurd hfeed (by decide)

/-! ### The tag that counts -/

/-- White space follows. -/
def accepts (rest : List Char) : Bool :=
  rest.head?.any isBlank

theorem accepts_iff (rest : List Char) :
    accepts rest = true ↔ ∃ c ∈ rest.head?, isBlank c = true := by
  simp [accepts, Option.any_eq_true]

theorem any_head?_of_gap {p : Char → Bool} {gap : String} (hne : gap ≠ "")
    (hgap : ∀ c ∈ gap.toList, p c = true) (rest : List Char) :
    (gap.toList ++ rest).head?.any p = true := by
  cases h : gap.toList with
  | nil => exact absurd (String.toList_eq_nil_iff.mp h) hne
  | cons c r => exact hgap c (by simp [h])

variable {documentation tag : String}

/-- Behind the tag that counts, a text is read if there is one. -/
theorem exists_isRead {before r : List Char}
    (h : Text.IsLeftmost ('@' :: tag.toList) accepts documentation.toList before r)
    (hr : ∃ c ∈ r, isBlank c = false) :
    ∃ gap text rest, IsRead documentation tag (String.ofList before) gap text rest ∧
      r = gap.toList ++ (text.toList ++ rest.toList) := by
  obtain ⟨gap, text, rest, rfl, hgap, hbegins, hline, hends⟩ := exists_cut hr
  refine ⟨String.ofList gap, String.ofList text, String.ofList rest, ?_, by simp⟩
  constructor
  case cut =>
    rw [← String.toList_inj, h.cut]
    simp
  case least =>
    rintro b r rfl hr
    have hle := h.least b.toList r.toList (by simp) ((accepts_iff _).mpr hr)
    rwa [String.length_toList, ← String.length_ofList] at hle
  case gap_ne =>
    -- otherwise the tag would be followed by the text at once
    intro hnil
    obtain rfl : gap = [] := by simpa using hnil
    obtain ⟨c, hc, hblank⟩ := (accepts_iff _).mp h.accepted
    obtain ⟨d, hd, htext⟩ := hbegins
    obtain ⟨t, rfl⟩ := List.head?_eq_some_iff.mp hd
    obtain rfl : d = c := by simpa using hc
    rw [hblank] at htext
    exact absurd htext (by decide)
  case blank => simpa using hgap
  case begins => simpa using hbegins
  case line => simpa using hline
  case ends => simpa [AtLineEnd] using hends

theorem IsRead.isLeftmost {before gap text rest : String}
    (h : IsRead documentation tag before gap text rest) :
    Text.IsLeftmost ('@' :: tag.toList) accepts documentation.toList before.toList
      (gap.toList ++ (text.toList ++ rest.toList)) := by
  constructor
  case cut => simp [h.cut]
  case accepted => exact any_head?_of_gap h.gap_ne h.blank _
  case least =>
    intro b r hb hr
    have hcut : documentation = String.ofList b ++ "@" ++ tag ++ String.ofList r := by
      rw [← String.toList_inj, hb]
      simp
    have hle := h.least _ _ hcut (by simpa using (accepts_iff r).mp hr)
    rwa [String.length_ofList, ← String.length_toList] at hle

/-- The value of a tag is what the tag that counts takes, without white space around it. -/
theorem value?_eq_some_iff {value : String} :
    value? documentation tag = some value ↔
      ∃ before gap text rest, IsRead documentation tag before gap text rest ∧
        value = trimmed text := by
  have hmark : '@' :: tag.toList ≠ [] := by simp
  have hread : ∀ {before gap text rest : String}, IsRead documentation tag before gap text rest →
      valueAfter (gap.toList ++ (text.toList ++ rest.toList)) = Text.trim text.toList :=
    fun h => valueAfter_eq h.blank h.begins h.line h.ends
  unfold value?
  rw [Option.bind_eq_some_iff]
  constructor
  · rintro ⟨r, hafter, hvalue⟩
    obtain ⟨before, hleftmost⟩ := (Text.after?_eq_some_iff hmark).mp hafter
    have hr : ∃ c ∈ r, isBlank c = false := by
      by_cases hblank : ∀ c ∈ r, isBlank c = true
      · simp [valueAfter_eq_nil hblank] at hvalue
      · obtain ⟨c, h⟩ := Classical.not_forall.mp hblank
        obtain ⟨hc, hblank⟩ := Classical.not_imp.mp h
        exact ⟨c, hc, by simpa using hblank⟩
    obtain ⟨gap, text, rest, h, rfl⟩ := exists_isRead hleftmost hr
    have hne := trim_ne_nil h.begins
    rw [hread h] at hvalue
    have htrimmed : trimmed text = value := by simpa [hne, trimmed] using hvalue
    exact ⟨_, gap, text, rest, h, htrimmed.symm⟩
  · rintro ⟨before, gap, text, rest, h, rfl⟩
    refine ⟨_, (Text.after?_eq_some_iff hmark).mpr ⟨_, h.isLeftmost⟩, ?_⟩
    have hne := trim_ne_nil h.begins
    simp [hread h, hne, trimmed]

/-- A text on the line of some tag is not passed over: the tag that counts takes one. -/
theorem exists_isRead_of_onLine {before text : String} (h : OnLine documentation tag before text)
    (htext : HasText text) :
    ∃ before gap text rest, IsRead documentation tag before gap text rest := by
  have hmark : '@' :: tag.toList ≠ [] := by simp
  obtain ⟨gap, rest, hcut, hne, hblank, -, -⟩ := h
  have hplace : documentation.toList = before.toList
      ++ ('@' :: tag.toList ++ (gap.toList ++ (text.toList ++ rest.toList))) := by
    simp [hcut]
  have haccepts : accepts (gap.toList ++ (text.toList ++ rest.toList)) = true :=
    any_head?_of_gap hne (fun c hc => (hblank c hc).1) _
  have hsome := (Text.isSome_after?_iff hmark accepts documentation.toList).mpr
    ⟨_, _, hplace, haccepts⟩
  obtain ⟨r, hafter⟩ := Option.isSome_iff_exists.mp hsome
  obtain ⟨first, hfirst⟩ := (Text.after?_eq_some_iff hmark).mp hafter
  -- the tag that counts is not behind this one, so all that follows this one follows it
  have hsuffix : gap.toList ++ (text.toList ++ rest.toList) <:+ r := by
    have hle := hfirst.least _ _ hplace haccepts
    have hlength := congrArg List.length (hfirst.cut.symm.trans hplace)
    have hown : gap.toList ++ (text.toList ++ rest.toList) <:+ documentation.toList :=
      ⟨before.toList ++ '@' :: tag.toList, by rw [hplace]; simp⟩
    have hread : r <:+ documentation.toList :=
      ⟨first ++ '@' :: tag.toList, by rw [hfirst.cut]; simp⟩
    refine List.suffix_of_suffix_length_le hown hread ?_
    simp only [List.length_append, List.length_cons] at hlength ⊢
    omega
  obtain ⟨c, hc, hfilled⟩ := htext
  have hmem : c ∈ r := hsuffix.subset (by simp [hc])
  obtain ⟨gap, text, rest, hread, -⟩ := exists_isRead hfirst ⟨c, hmem, hfilled⟩
  exact ⟨_, gap, text, rest, hread⟩

/-- What is read stands on the line of its tag exactly if no line feed stands between them. -/
theorem IsRead.onLine_iff {before gap text rest : String}
    (h : IsRead documentation tag before gap text rest) :
    OnLine documentation tag before text ↔ '\n' ∉ gap.toList := by
  constructor
  · rintro ⟨own, rest', hcut, -, hown, -, -⟩ hfeed
    have htake : ∀ {g t : List Char}, (∀ c ∈ g, isBlank c = true) →
        (g ++ (text.toList ++ t)).takeWhile isBlank = g := by
      intro g t hg
      obtain ⟨c, hc, hblank⟩ := h.begins
      obtain ⟨r, htext⟩ := List.head?_eq_some_iff.mp hc
      rw [List.takeWhile_append_of_pos hg, htext, List.cons_append,
        List.takeWhile_cons_of_neg (by simp [hblank]), List.append_nil]
    have hsame : gap = own := by
      have hboth := congrArg String.toList (h.cut.symm.trans hcut)
      simp only [String.toList_append, List.append_assoc, List.append_cancel_left_eq] at hboth
      rw [← String.toList_inj, ← htake (t := rest.toList) h.blank, hboth,
        htake fun c hc => (hown c hc).1]
    rw [hsame] at hfeed
    exact (hown _ hfeed).2 rfl
  · intro hfeed
    refine ⟨gap, rest, h.cut, h.gap_ne, fun c hc => ⟨h.blank c hc, ?_⟩, h.line, h.ends⟩
    rintro rfl
    exact hfeed hc

/-- White space follows that does not end the line. -/
def staysOnLine (rest : List Char) : Bool :=
  rest.head?.any fun c => isBlank c && c != '\n'

theorem OnLine.isSome_after? {before text : String} (h : OnLine documentation tag before text) :
    (Text.after? ('@' :: tag.toList) staysOnLine documentation.toList).isSome = true := by
  obtain ⟨gap, rest, hcut, hne, hblank, -, -⟩ := h
  have hstays : ∀ c ∈ gap.toList, (isBlank c && c != '\n') = true := by simpa using hblank
  rw [Text.isSome_after?_iff (by simp)]
  exact ⟨before.toList, gap.toList ++ (text.toList ++ rest.toList), by simp [hcut],
    any_head?_of_gap hne hstays _⟩

/-! ### Options of a field -/

/-- **A tag takes the first text behind it, and its own line exactly if there is one on it.**

The option of a tag is there exactly if the leftmost tag that white space follows has a text
behind it, and tells that text.  The text stands on the line of the tag exactly if no line
feed stands between the two.  So an option is given wherever some line has a text behind the
tag, but where the first tag has none, it tells another line. -/
theorem mem_ofField_iff_isRead (f : Field) (d : Descriptor) (isNullable : Bool)
    (className : String) {tag : String} (htag : tag ∈ names) :
    (∀ value, (⟨tag, value⟩ : ApiProperty) ∈ ApiProperty.ofField f d isNullable className ↔
        ∃ before gap text rest, IsRead (d.documentation.getD "") tag before gap text rest ∧
          value = Literal.ofText (trimmed text)) ∧
      (∀ before gap text rest, IsRead (d.documentation.getD "") tag before gap text rest →
        (OnLine (d.documentation.getD "") tag before text ↔ '\n' ∉ gap.toList)) ∧
      ((∃ before text, OnLine (d.documentation.getD "") tag before text ∧ HasText text) →
        ∃ value, (⟨tag, value⟩ : ApiProperty) ∈ ApiProperty.ofField f d isNullable className) := by
  have hmem : ∀ value, (⟨tag, value⟩ : ApiProperty) ∈ ApiProperty.ofField f d isNullable className ↔
      ∃ before gap text rest, IsRead (d.documentation.getD "") tag before gap text rest ∧
        value = Literal.ofText (trimmed text) := by
    intro value
    rw [ApiProperty.mem_ofField_iff_mem_ofDocumentation f d isNullable className htag,
      ApiProperty.mem_ofDocumentation_iff htag]
    constructor
    · rintro ⟨found, hfound, rfl⟩
      obtain ⟨before, gap, text, rest, h, rfl⟩ := value?_eq_some_iff.mp hfound
      exact ⟨before, gap, text, rest, h, rfl⟩
    · rintro ⟨before, gap, text, rest, h, rfl⟩
      exact ⟨_, value?_eq_some_iff.mpr ⟨before, gap, text, rest, h, rfl⟩, rfl⟩
  refine ⟨hmem, fun before gap text rest h => h.onLine_iff, ?_⟩
  rintro ⟨before, text, honLine, htext⟩
  obtain ⟨first, gap, read, rest, h⟩ := exists_isRead_of_onLine honLine htext
  exact ⟨_, (hmem _).mpr ⟨first, gap, read, rest, h, rfl⟩⟩

/-- A field whose description was left empty. -/
def age : Field where
  name := "age"
  kind := .scalar
  type := "Int"
  isRequired := true
  documentation := some "@description\n@minimum 5"

/-- The empty tag takes the next line, which is another tag and its value. -/
theorem mem_ofField_age :
    "description" ∈ names ∧
      (⟨"description", "'@minimum 5'"⟩ : ApiProperty)
        ∈ ApiProperty.ofField age age.descriptor false "" ∧
      ∃ before gap text rest,
        IsRead "@description\n@minimum 5" "description" before gap text rest ∧
          "'@minimum 5'" = Literal.ofText (trimmed text) := by
  have htag : "description" ∈ names := by decide
  have hmem : (⟨"description", "'@minimum 5'"⟩ : ApiProperty)
      ∈ ApiProperty.ofField age age.descriptor false "" := by decide +kernel
  exact ⟨htag, hmem,
    ((mem_ofField_iff_isRead age age.descriptor false "" htag).1 _).mp hmem⟩

/-- What an empty tag tells does not stand on its line, nor on that of another one. -/
theorem not_onLine_age :
    ¬∀ (f : Field) (d : Descriptor) (isNullable : Bool) (className : String),
      ∀ p ∈ ApiProperty.ofField f d isNullable className, p.name ∈ names →
        ∃ before text, OnLine (d.documentation.getD "") p.name before text ∧
          p.value = Literal.ofText (trimmed text) := by
  intro h
  obtain ⟨before, text, honLine, -⟩ :=
    h age age.descriptor false "" ⟨"description", "'@minimum 5'"⟩ (by decide +kernel) (by decide)
  have hnone : (Text.after? "@description".toList staysOnLine
      "@description\n@minimum 5".toList).isSome = false := by decide +kernel
  have hsome : (Text.after? "@description".toList staysOnLine
      "@description\n@minimum 5".toList).isSome = true := honLine.isSome_after?
  rw [hnone] at hsome
  exact absurd hsome (by decide)

end DtoForge.DocTag
