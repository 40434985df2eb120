/-
What a documentation of directives asks for.

A documentation is written from items: a directive, with arguments or without, and free
text up to the next one.  Only an item begins with the mark `@`, so a search can stop
nowhere else, and a name of letters and digits ends exactly where its item says it does.
So the scan for a name, which reads the whole text, finds the first item of that name
and nothing of the other items, however much their names and arguments look alike.
-/
import Mathlib.Data.List.Basic
import DtoForge.Proofs.Character.Ascii
import DtoForge.Validation.Directive

namespace DtoForge.Text

variable {name : List Char} {accepts : List Char → Bool}

/-! ### Scanning for a marked name -/

theorem after?_cons_of_ne {c : Char} (hc : c ≠ '@') (s : List Char) :
    after? ('@' :: name) accepts (c :: s) = after? ('@' :: name) accepts s := by
  have hne : ('@' == c) = false := by simpa using hc.symm
  rw [after?, List.isPrefixOf?, hne]
  rfl

theorem after?_append_of_notMem :
    ∀ {t : List Char}, '@' ∉ t → ∀ s : List Char,
      after? ('@' :: name) accepts (t ++ s) = after? ('@' :: name) accepts s := by
  intro t
  induction t with
  | nil => intro _ s; rfl
  | cons c t ih =>
      intro ht s
      simp only [List.mem_cons, not_or] at ht
      rw [List.cons_append, after?_cons_of_ne (Ne.symm ht.1), ih ht.2]

/-- A scan stops at a mark that the name follows in an accepted place. -/
theorem after?_mark_of_accepts {rest : List Char} (h : accepts rest = true) :
    after? ('@' :: name) accepts ('@' :: (name ++ rest)) = some rest := by
  have hpre : ('@' :: name).isPrefixOf? ('@' :: (name ++ rest)) = some rest := by
    rw [List.isPrefixOf?_eq_some_iff_append_eq, List.cons_append]
  rw [after?, hpre]
  simp [h]

/-- A scan passes over a mark that the name follows in no accepted place. -/
theorem after?_mark_of_not_accepts {s : List Char}
    (h : ∀ rest, name ++ rest = s → accepts rest = false) :
    after? ('@' :: name) accepts ('@' :: s) = after? ('@' :: name) accepts s := by
  rw [after?]
  cases hpre : ('@' :: name).isPrefixOf? ('@' :: s) with
  | none => rfl
  | some rest =>
      rw [List.isPrefixOf?_eq_some_iff_append_eq, List.cons_append, List.cons.injEq] at hpre
      simp [h rest hpre.2]

end DtoForge.Text

namespace DtoForge.Directive

/-! ### Names -/

/-- A name that a directive can have: letters and digits of ASCII. -/
def IsName (s : List Char) : Prop :=
  s ≠ [] ∧ ∀ c ∈ s, c.isAlphanum = true

instance (s : List Char) : Decidable (IsName s) :=
  decidable_of_iff (s ≠ [] ∧ s.all Char.isAlphanum = true) (by simp [IsName])

theorem IsName.mark_notMem {s : List Char} (hs : IsName s) : '@' ∉ s := by
  intro hc
  exact absurd (hs.2 _ hc) (by decide)

/-- Where one name is read at the front of a text that another one starts, and the two
differ, a word goes on. -/
theorem not_atWordEnd_of_ne {m n rest tail : List Char} (hm : IsName m) (hn : IsName n)
    (hne : m ≠ n) (htail : atWordEnd tail = true) (h : m ++ rest = n ++ tail) :
    atWordEnd rest = false := by
  rcases List.append_eq_append_iff.mp h with ⟨cut, hcut, hrest⟩ | ⟨cut, hcut, hrest⟩
  · -- `m` is shorter, so what follows it begins inside of `n`
    cases cut with
    | nil => exact absurd (by simpa using hcut.symm) hne
    | cons c cut =>
        have hw : isWord c = true := isWord_of_alphanum (hn.2 c (by simp [hcut]))
        simp [atWordEnd, hrest, hw]
  · -- `n` is shorter, so the text behind it would begin inside of `m`
    cases cut with
    | nil => exact absurd (by simpa using hcut) hne
    | cons c cut =>
        have hw : isWord c = true := isWord_of_alphanum (hm.2 c (by simp [hcut]))
        simp [atWordEnd, hrest, hw] at htail

/-! ### Items -/

/-- A directive, and the text up to the next one. -/
structure Item where
  name : String
  /-- What stands in the parentheses, if there are any. -/
  arguments : Option String
  after : String
  deriving DecidableEq, Repr

namespace Item

/-- What follows the name of the directive. -/
def tail (i : Item) : String :=
  (match i.arguments with
    | some a => "(" ++ a ++ ")"
    | none => "") ++ i.after

/-- The item as it is written. -/
def text (i : Item) : String :=
  "@" ++ i.name ++ i.tail

/-- The validator that the item asks for.  Empty arguments are none. -/
def decorator (i : Item) : Decorator :=
  ⟨i.name, i.arguments.filter (· != "")⟩

/-- An item can be read back: its parts do not run into each other. -/
structure WF (i : Item) : Prop where
  name : IsName i.name.toList
  arguments : ∀ a ∈ i.arguments, ∀ c ∈ a.toList, c ≠ ')' ∧ c ≠ '\n' ∧ c ≠ '@'
  after : '@' ∉ i.after.toList
  /-- What follows a name without arguments neither continues it nor opens some. -/
  apart : i.arguments = none → ∀ c ∈ i.after.toList.head?, isWord c = false ∧ c ≠ '('

theorem wf_iff {i : Item} :
    i.WF ↔ IsName i.name.toList ∧
      (∀ a ∈ i.arguments, ∀ c ∈ a.toList, c ≠ ')' ∧ c ≠ '\n' ∧ c ≠ '@') ∧
      '@' ∉ i.after.toList ∧
      (i.arguments = none → ∀ c ∈ i.after.toList.head?, isWord c = false ∧ c ≠ '(') :=
  ⟨fun ⟨h₁, h₂, h₃, h₄⟩ => ⟨h₁, h₂, h₃, h₄⟩, fun ⟨h₁, h₂, h₃, h₄⟩ => ⟨h₁, h₂, h₃, h₄⟩⟩

instance (i : Item) : Decidable i.WF :=
  decidable_of_iff
    (IsName i.name.toList ∧
      i.arguments.all (·.toList.all fun c => c != ')' && c != '\n' && c != '@') = true ∧
      '@' ∉ i.after.toList ∧
      (i.arguments.isSome || i.after.toList.head?.all fun c => !isWord c && c != '(') = true)
    (by
      obtain ⟨name, arguments, after⟩ := i
      cases arguments <;> simp [wf_iff, Option.all_eq_true, and_assoc])

end Item

/-- A documentation: free text, and then items. -/
def written (lead : String) (items : List Item) : String :=
  lead ++ String.join (items.map Item.text)

/-- The text of some items. -/
def itemsText (items : List Item) : List Char :=
  (String.join (items.map Item.text)).toList

@[simp] theorem itemsText_nil : itemsText [] = [] := rfl

@[simp] theorem itemsText_cons (i : Item) (items : List Item) :
    itemsText (i :: items)
      = '@' :: (i.name.toList ++ (i.tail.toList ++ itemsText items)) := by
  simp [itemsText, Item.text, String.join_cons]

theorem head?_itemsText {items : List Item} {c : Char} (h : (itemsText items).head? = some c) :
    c = '@' := by
  cases items with
  | nil => simp at h
  | cons i items => simpa using h.symm

theorem arguments?_eq_none {s : List Char} (h : ∀ c ∈ s.head?, c ≠ '(') :
    arguments? s = none := by
  unfold arguments?
  split
  · exact absurd rfl (h '(' rfl)
  · rfl

namespace Item

variable {i : Item}

theorem WF.mark_notMem_tail (h : i.WF) : '@' ∉ i.tail.toList := by
  unfold tail
  cases ha : i.arguments with
  | none => simpa using h.after
  | some a =>
      have hmem : '@' ∉ a.toList := fun hc => (h.arguments a ha _ hc).2.2 rfl
      simpa [hmem] using h.after

/-- The name of an item ends where its tail begins. -/
theorem WF.atWordEnd_tail (h : i.WF) (items : List Item) :
    atWordEnd (i.tail.toList ++ itemsText items) = true := by
  unfold tail
  cases ha : i.arguments with
  | some a => simp [atWordEnd, show isWord '(' = false by decide]
  | none =>
      cases hafter : i.after.toList with
      | nil =>
          cases items with
          | nil => simp [hafter, atWordEnd]
          | cons j items => simp [hafter, atWordEnd, show isWord '@' = false by decide]
      | cons c r =>
          have hc := h.apart ha c (by simp [hafter])
          simp [hafter, atWordEnd, hc.1]

/-- What is read behind the name are the arguments of the item. -/
theorem WF.arguments?_tail (h : i.WF) (items : List Item) :
    arguments? (i.tail.toList ++ itemsText items) = i.arguments.map String.toList := by
  unfold tail
  cases ha : i.arguments with
  | some a =>
      have hall : ∀ c ∈ a.toList, (c != ')' && c != '\n') = true := by
        intro c hc
        have hcc := h.arguments a ha c hc
        simp [hcc.1, hcc.2.1]
      have htake : ∀ r : List Char,
          (a.toList ++ ')' :: r).takeWhile (fun c => c != ')' && c != '\n') = a.toList := by
        intro r
        rw [List.takeWhile_append_of_pos hall]
        simp
      simp [arguments?, htake]
  | none =>
      have hopen : ∀ c ∈ (i.after.toList ++ itemsText items).head?, c ≠ '(' := by
        intro c hc
        cases hafter : i.after.toList with
        | nil =>
            rw [hafter, List.nil_append] at hc
            rw [head?_itemsText hc]
            decide
        | cons d r => exact (h.apart ha c (by simpa [hafter] using hc)).2
      simpa using arguments?_eq_none hopen

theorem WF.decorator_tail (h : i.WF) (items : List Item) :
    Directive.decorator i.name (i.tail.toList ++ itemsText items) = i.decorator := by
  unfold Directive.decorator Item.decorator
  rw [h.arguments?_tail]
  cases i.arguments with
  | none => rfl
  | some a =>
      by_cases ha : a = ""
      · simp [ha, Option.filter]
      · have hne : a.toList ≠ [] := by simpa using ha
        simp [ha, hne, Option.filter]

end Item

/-! ### Reading items back -/

/-- A scan for a name goes from item to item and stops at the first of that name. -/
theorem after?_itemsText {name : String} (hname : IsName name.toList) :
    ∀ {items : List Item}, (∀ i ∈ items, i.WF) →
      (Text.after? ('@' :: name.toList) atWordEnd (itemsText items)).map (decorator name)
        = (items.find? (·.name == name)).map Item.decorator := by
  intro items
  induction items with
  | nil => intro _; rfl
  | cons i items ih =>
      intro hwf
      have hi : i.WF := hwf i (by simp)
      rw [itemsText_cons]
      by_cases hn : i.name = name
      · subst hn
        rw [Text.after?_mark_of_accepts (hi.atWordEnd_tail items)]
        simp [hi.decorator_tail]
      · have hne : name.toList ≠ i.name.toList := fun h => hn (String.toList_inj.mp h).symm
        rw [Text.after?_mark_of_not_accepts fun rest hrest =>
          not_atWordEnd_of_ne hname hi.name hne (hi.atWordEnd_tail items) hrest]
        rw [Text.after?_append_of_notMem hi.name.mark_notMem,
          Text.after?_append_of_notMem hi.mark_notMem_tail,
          ih fun j hj => hwf j (by simp [hj])]
        simp [hn]

/-- **A documentation asks for what its items say.**  Under each name it is the first item
of that name that counts. -/
theorem find?_written {lead name : String} {items : List Item} (hlead : '@' ∉ lead.toList)
    (hitems : ∀ i ∈ items, i.WF) (hname : IsName name.toList) :
    find? (written lead items) name = (items.find? (·.name == name)).map Item.decorator := by
  have htext : (written lead items).toList = lead.toList ++ itemsText items := by
    simp [written, itemsText]
  rw [find?, htext, Text.after?_append_of_notMem hlead, after?_itemsText hname hitems]

end DtoForge.Directive
