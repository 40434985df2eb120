/-
Where module specifiers lead.

A specifier is followed segment by segment from the directory of the importing file: `.`
stays, `..` leaves, and every other segment enters.  The specifier of a file leads to that
file, because a route leaves exactly what the two directories do not share and enters
exactly the rest.
-/
import Mathlib.Data.List.Basic
import Mathlib.Data.List.Induction
import DtoForge.Code.Import
import DtoForge.Code.ModulePath
import DtoForge.Proofs.Text.Pieces

namespace DtoForge.ModulePath

/-! ### Following a specifier -/

/-- One segment of a specifier, followed from a directory.  There is nothing above the
root. -/
def follow (dir : List String) (segment : String) : Option (List String) :=
  if segment = "." then some dir
  else if segment = ".." then if dir = [] then none else some dir.dropLast
  else some (dir ++ [segment])

/-- Segments, followed from a directory. -/
def walk (dir segments : List String) : Option (List String) :=
  segments.foldlM follow dir

/-- The path that a specifier leads to from a directory. -/
def resolve (dir : List String) (specifier : String) : Option (List String) :=
  walk dir ((Text.splitAt '/' specifier.toList).map String.ofList)

/-- A segment that can be entered. -/
def IsOrdinary (segment : String) : Prop :=
  segment ≠ "." ∧ segment ≠ ".." ∧ '/' ∉ segment.toList

/-- A path that leads down and nowhere else: components that can be entered, one at least and
three at most. -/
structure IsBelow (path : List String) : Prop where
  ne_nil : path ≠ []
  length_le : path.length ≤ 3
  ne_empty : ∀ c ∈ path, c ≠ ""
  isOrdinary : ∀ c ∈ path, IsOrdinary c

theorem IsBelow.slash_notMem {path : List String} (h : IsBelow path) :
    ∀ c ∈ path, '/' ∉ c.toList :=
  fun c hc => (h.isOrdinary c hc).2.2

theorem toList_intercalate (segments : List String) :
    ("/".intercalate segments).toList = ['/'].intercalate (segments.map String.toList) := by
  rw [String.toList_intercalate]
  rfl

/-- Segments that are joined by slashes and cut at them are the same segments. -/
theorem split_intercalate {segments : List String} (hne : segments ≠ [])
    (h : ∀ s ∈ segments, '/' ∉ s.toList) :
    (Text.splitAt '/' ("/".intercalate segments).toList).map String.ofList = segments := by
  have hpieces : ∀ p ∈ segments.map String.toList, '/' ∉ p := by
    intro p hp
    obtain ⟨s, hs, rfl⟩ := List.mem_map.mp hp
    exact h s hs
  rw [toList_intercalate, Text.splitAt_intercalate (by simpa using hne) hpieces, List.map_map]
  simp [Function.comp_def]

theorem resolve_intercalate {dir segments : List String} (hne : segments ≠ [])
    (h : ∀ s ∈ segments, '/' ∉ s.toList) :
    resolve dir ("/".intercalate segments) = walk dir segments := by
  rw [resolve, split_intercalate hne h]

/-! ### Routes -/

theorem walk_append (dir a b : List String) :
    walk dir (a ++ b) = (walk dir a).bind fun d => walk d b :=
  List.foldlM_append

theorem walk_ordinary :
    ∀ {segments : List String} (dir : List String), (∀ s ∈ segments, IsOrdinary s) →
      walk dir segments = some (dir ++ segments) := by
  intro segments
  induction segments with
  | nil => intro dir _; simp [walk]
  | cons s segments ih =>
      intro dir h
      have hs := h s (by simp)
      have hfollow : follow dir s = some (dir ++ [s]) := by
        rw [follow, if_neg hs.1, if_neg hs.2.1]
      rw [walk, List.foldlM_cons, hfollow]
      exact (ih _ fun t ht => h t (by simp [ht])).trans (by simp)

/-- As many `..` as there are components leave exactly these. -/
theorem walk_leave (dir : List String) :
    ∀ leave : List String, walk (dir ++ leave) (leave.map fun _ => "..") = some dir := by
  intro leave
  induction leave using List.reverseRecOn with
  | nil => simp [walk]
  | append_singleton leave c ih =>
      have hsame : (leave ++ [c]).map (fun _ => "..") = ".." :: leave.map fun _ => ".." := by
        rw [List.map_const', List.map_const', List.length_append, List.length_singleton,
          List.replicate_succ]
      have hfollow : follow (dir ++ (leave ++ [c])) ".." = some (dir ++ leave) := by
        rw [follow, if_neg (by decide), if_pos rfl, if_neg (by simp), ← List.append_assoc,
          List.dropLast_concat]
      rw [hsame, walk, List.foldlM_cons, hfollow]
      exact ih

/-- What two directories do not share is what follows a common start. -/
theorem diverge_spec :
    ∀ source target : List String, ∃ common,
      source = common ++ (diverge source target).1 ∧
        target = common ++ (diverge source target).2 := by
  intro source
  induction source with
  | nil => intro target; exact ⟨[], by simp [diverge]⟩
  | cons a source ih =>
      intro target
      cases target with
      | nil => exact ⟨[], by simp [diverge]⟩
      | cons b target =>
          by_cases hab : a = b
          · obtain ⟨common, hs, ht⟩ := ih target
            refine ⟨a :: common, ?_, ?_⟩
            · rw [diverge, if_pos hab, List.cons_append, ← hs]
            · rw [diverge, if_pos hab, List.cons_append, ← ht, hab]
          · exact ⟨[], by simp [diverge, hab]⟩

theorem diverge_self (dir : List String) : diverge dir dir = ([], []) := by
  induction dir with
  | nil => rfl
  | cons c dir ih => rw [diverge, if_pos rfl, ih]

theorem walk_route {source target : List String} (h : ∀ c ∈ target, IsOrdinary c) :
    walk source (route source target) = some target := by
  obtain ⟨common, hs, ht⟩ := diverge_spec source target
  rw [route]
  generalize diverge source target = d at hs ht
  obtain ⟨leave, enter⟩ := d
  have henter : walk common enter = some target := by
    rw [ht]
    exact walk_ordinary common fun c hc => h c (by rw [ht]; exact List.mem_append_right _ hc)
  rw [walk_append]
  cases leave with
  | nil =>
      have hstay : walk source ["."] = some source := by simp [walk, follow]
      have hsource : source = common := by simpa using hs
      rw [List.isEmpty_nil, if_pos rfl, hstay, Option.bind_some, hsource]
      exact henter
  | cons c leave =>
      have hback : walk source ((c :: leave).map fun _ => "..") = some common := by
        rw [hs]
        exact walk_leave common (c :: leave)
      rw [List.isEmpty_cons, if_neg Bool.false_ne_true, hback, Option.bind_some]
      exact henter

theorem mem_route {source target : List String} {segment : String}
    (h : segment ∈ route source target) :
    segment = "." ∨ segment = ".." ∨ segment ∈ target := by
  obtain ⟨common, -, ht⟩ := diverge_spec source target
  rw [route] at h
  rcases List.mem_append.mp h with hleave | henter
  · split at hleave
    · exact Or.inl (List.mem_singleton.mp hleave)
    · obtain ⟨c, -, rfl⟩ := List.mem_map.mp hleave
      exact Or.inr (Or.inl rfl)
  · refine Or.inr (Or.inr ?_)
    rw [ht]
    exact List.mem_append_right _ henter

theorem slash_notMem_route {source target : List String} (h : ∀ c ∈ target, '/' ∉ c.toList) :
    ∀ s ∈ route source target, '/' ∉ s.toList := by
  intro s hs
  rcases mem_route hs with rfl | rfl | hs
  · decide
  · decide
  · exact h s hs

theorem route_eq_cons (source target : List String) :
    ∃ first rest, (first = "." ∨ first = "..") ∧ route source target = first :: rest := by
  rw [route]
  generalize diverge source target = d
  obtain ⟨leave, enter⟩ := d
  cases leave with
  | nil => exact ⟨".", enter, Or.inl rfl, rfl⟩
  | cons c leave => exact ⟨"..", _, Or.inr rfl, rfl⟩

/-! ### Specifiers -/

/-- A route and a last segment, followed as one specifier. -/
theorem resolve_route {source target : List String} {last : String}
    (htarget : ∀ c ∈ target, IsOrdinary c) (hlast : IsOrdinary last) :
    resolve source ("/".intercalate (route source target ++ [last]))
      = some (target ++ [last]) := by
  have hslash : ∀ s ∈ route source target ++ [last], '/' ∉ s.toList := by
    intro s hs
    rcases List.mem_append.mp hs with hs | hs
    · exact slash_notMem_route (fun c hc => (htarget c hc).2.2) s hs
    · rw [List.mem_singleton.mp hs]
      exact hlast.2.2
  rw [resolve_intercalate (by simp) hslash, walk_append, walk_route htarget,
    Option.bind_some]
  exact walk_ordinary target fun s hs => by
    rw [List.mem_singleton.mp hs]
    exact hlast

theorem resolve_specifier {source target : List String} {file : String}
    (htarget : ∀ c ∈ target, IsOrdinary c) (hfile : IsOrdinary (stem file)) :
    resolve source (specifier source target file) = some (target ++ [stem file]) :=
  resolve_route htarget hfile

/-- Whatever is written behind a specifier is written behind its last segment. -/
theorem specifier_append (source target : List String) (file ending : String) :
    specifier source target file ++ ending
      = "/".intercalate (route source target ++ [stem file ++ ending]) := by
  obtain ⟨first, rest, -, hroute⟩ := route_eq_cons source target
  have hne : route source target ≠ [] := by simp [hroute]
  rw [specifier, String.intercalate_append_of_ne_nil hne (by simp),
    String.intercalate_append_of_ne_nil hne (by simp), String.intercalate_singleton,
    String.intercalate_singleton, String.append_assoc]

theorem stem_append_ts (name : String) : stem (name ++ ".ts") = name := by
  have hrev : (name ++ ".ts").toList.reverse = ['s', 't', '.'] ++ name.toList.reverse := by
    simp
  have hpre : ['s', 't', '.'].isPrefixOf? (name ++ ".ts").toList.reverse
      = some name.toList.reverse := by
    rw [List.isPrefixOf?_eq_some_iff_append_eq, hrev]
  rw [stem, hpre]
  simp

/-! ### Paths below a root -/

theorem under_eq (root : String) (path : List String) :
    under root path = under root [] ++ "/".intercalate path := by
  unfold under
  split
  · rw [String.intercalate_nil, String.empty_append]
  · split
    · rw [String.intercalate_nil, String.append_empty]
    · rw [String.intercalate_nil, String.append_empty]

theorem under_inj {root : String} {a b : List String} (ha : a ≠ []) (hb : b ≠ [])
    (hslash : ∀ s ∈ a ++ b, '/' ∉ s.toList) (h : under root a = under root b) : a = b := by
  rw [under_eq root a, under_eq root b, String.append_right_inj] at h
  rw [← split_intercalate ha fun s hs => hslash s (List.mem_append_left _ hs), h,
    split_intercalate hb fun s hs => hslash s (List.mem_append_right _ hs)]

/-- A path that goes on with one more component.  What begins with a slash starts anew. -/
def join (path component : String) : String :=
  if component.toList.head? = some '/' then component else under path [component]

theorem under_of_getLast?_ne {root : String} {path : List String} (hempty : root.isEmpty = false)
    (hlast : root.toList.getLast? ≠ some '/') :
    under root path = root ++ "/" ++ "/".intercalate path := by
  simp only [under, hempty, Bool.false_eq_true, if_false, if_neg hlast]

theorem under_under {root c : String} {path : List String} (hc : c ≠ "")
    (hslash : '/' ∉ c.toList) (hpath : path ≠ []) :
    under (under root [c]) path = under root (c :: path) := by
  have hchars : c.toList ≠ [] := by simpa using hc
  have hroot : under root [c] = under root [] ++ c := by
    rw [under_eq root [c], String.intercalate_singleton]
  have hempty : (under root [c]).isEmpty = false := by
    simp [hroot, hc]
  have hlast : (under root [c]).toList.getLast? ≠ some '/' := by
    rw [hroot, String.toList_append, List.getLast?_append_of_ne_nil _ hchars]
    exact fun h => hslash (List.mem_of_getLast? h)
  rw [under_of_getLast?_ne hempty hlast, under_eq root (c :: path),
    String.intercalate_cons_of_ne_nil hpath, ← String.append_assoc, ← String.append_assoc, ← hroot]

/-- Components that are joined to a root one by one lie below it, if none of them is empty or
has a slash. -/
theorem foldl_join {path : List String} (hne : path ≠ []) :
    ∀ {root : String}, (∀ c ∈ path, c ≠ "" ∧ '/' ∉ c.toList) →
      path.foldl join root = under root path := by
  induction path with
  | nil => exact absurd rfl hne
  | cons c path ih =>
      intro root h
      obtain ⟨hc, hslash⟩ := h c (by simp)
      have hjoin : join root c = under root [c] := by
        rw [join, if_neg fun hhead => hslash (List.mem_of_head? hhead)]
      rw [List.foldl_cons, hjoin]
      cases path with
      | nil => rfl
      | cons d path =>
          rw [ih (by simp) fun e he => h e (List.mem_cons_of_mem c he),
            under_under hc hslash (by simp)]

/-- **A path that leads down stays below the root that it is joined to.** -/
theorem IsBelow.foldl_join_eq_under {path : List String} (h : IsBelow path) (root : String) :
    path.foldl join root = under root path :=
  foldl_join h.ne_nil fun c hc => ⟨h.ne_empty c hc, h.slash_notMem c hc⟩

end DtoForge.ModulePath

namespace DtoForge

/-! ### Relative imports -/

/-- Whether a statement imports from another file of the output, and not from a package. -/
def Import.isRelative (i : Import) : Bool :=
  "./".toList.isPrefixOf i.source.toList || "../".toList.isPrefixOf i.source.toList

theorem ModulePath.isRelative_specifier (source target : List String) (file : String)
    (names : List String) :
    Import.isRelative ⟨specifier source target file, names⟩ = true := by
  obtain ⟨first, rest, hfirst, hroute⟩ := route_eq_cons source target
  have htext : specifier source target file
      = first ++ ("/" ++ "/".intercalate (rest ++ [stem file])) := by
    rw [specifier, hroute, List.cons_append,
      String.intercalate_cons_of_ne_nil (by simp), String.append_assoc]
  rcases hfirst with rfl | rfl
  · simp [Import.isRelative, htext, List.isPrefixOf]
  · simp [Import.isRelative, htext, List.isPrefixOf]

end DtoForge
