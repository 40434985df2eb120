/-
One file and its two readers.

The reader of one file takes its bytes as they are, refuses text that is encoded badly, and
leaves a byte order mark to the reader of documents.  The reader of a file that others may
override drops the mark as bytes and repairs the text.  So it could see a document where the
first one sees none: in badly encoded text, or behind two marks.  Where the first one sees a
document, both see the same.
-/
import Mathlib.Data.List.Basic
import DtoForge.Proofs.Settings.Key
import DtoForge.Settings.Load

namespace DtoForge

/-! ### The text of bytes -/

namespace Utf8

/-- Bytes that can be decoded hold characters and no faults. -/
theorem pieces_of_decode? {bytes : List UInt8} {text : String} (h : decode? bytes = some text) :
    pieces bytes = text.toList.map some := by
  have hmapM : ∀ {ps : List (Option Char)} {cs : List Char},
      ps.mapM id = some cs → ps = cs.map some := by
    intro ps
    induction ps with
    | nil => intro cs h; simp_all
    | cons p ps ih =>
        intro cs h
        simp only [List.mapM_cons, id, Option.bind_eq_bind, Option.bind_eq_some_iff] at h
        obtain ⟨c, rfl, rest, hrest, hcs⟩ := h
        cases hcs
        rw [ih hrest, List.map_cons]
  obtain ⟨cs, hcs, rfl⟩ := Option.map_eq_some_iff.mp h
  rw [hmapM hcs, String.toList_ofList]

/-- Repairing changes nothing of text that is encoded well. -/
theorem decode_of_pieces {bytes : List UInt8} {cs : List Char}
    (h : pieces bytes = cs.map some) : decode bytes = String.ofList cs := by
  rw [decode, h, List.map_map]
  exact congrArg String.ofList (List.map_id cs)

theorem pieces_mark (r : List UInt8) :
    pieces (0xEF :: 0xBB :: 0xBF :: r) = some '\uFEFF' :: pieces r := by
  rw [pieces]
  rfl

end Utf8

/-! ### Marks in the text -/

namespace Toml

theorem statementsFrom_mark (done : List Statement) (r : List Char) :
    statementsFrom done ('\uFEFF' :: r) = none := by
  have hgap : gap? ('\uFEFF' :: r) = some ('\uFEFF' :: r) := by
    simp [gap?, gapFrom?, isSpace]
  have hpath : path? ('\uFEFF' :: r) = none := by
    rw [path?]
    simp [skip, isSpace, key?, isKeyChar, shortString?]
  have hstatement : statement? ('\uFEFF' :: r) = none := by
    simp [statement?, keyed?, hpath]
  rw [statementsFrom, hgap]
  simp [hstatement]

/-- A document has no second mark, so what is left of it behind the first is the same
document. -/
theorem read?_dropMark {text : String} {entries : List (String × Toml)}
    (h : read? text = some entries) :
    read? (String.ofList (dropMark text.toList)) = some entries := by
  have honce : dropMark (dropMark text.toList) = dropMark text.toList := by
    cases hmark : dropMark text.toList with
    | nil => rfl
    | cons c r =>
        by_cases hc : c = '\uFEFF'
        · rw [read?, hmark, hc, statementsFrom_mark] at h
          simp at h
        · rw [dropMark]
          rintro s hs
          exact hc (List.cons.inj hs).1
  rw [read?, String.toList_ofList, honce]
  exact h

end Toml

/-! ### Finding and reading the file -/

namespace Settings

/-- Where the bytes are a document, they are the same one without the bytes of a mark. -/
theorem read?_decode {bytes : List UInt8} {text : String} {entries : Entries}
    (htext : Utf8.decode? bytes = some text) (h : Toml.read? text = some entries) :
    Toml.read? (Utf8.decode (dropMark bytes)) = some entries := by
  have hpieces := Utf8.pieces_of_decode? htext
  unfold dropMark
  split
  · rename_i r
    rw [Utf8.pieces_mark] at hpieces
    cases hchars : text.toList with
    | nil => simp [hchars] at hpieces
    | cons c cs =>
        rw [hchars, List.map_cons, List.cons.injEq, Option.some.injEq] at hpieces
        obtain ⟨rfl, hrest⟩ := hpieces
        have hread := Toml.read?_dropMark h
        rw [hchars] at hread
        rw [Utf8.decode_of_pieces hrest]
        exact hread
  · rw [Utf8.decode_of_pieces hpieces, String.ofList_toList]
    exact h

/-- An ending is one where something that is no separator stands before it. -/
theorem hasTomlEnding_append (stem : String) {last : Char} (h : last ≠ '/') :
    hasTomlEnding (stem ++ String.singleton last ++ ".toml") = true := by
  have hcut : ".toml".toList.reverse.isPrefixOf?
      (stem ++ String.singleton last ++ ".toml").toList.reverse
        = some (last :: stem.toList.reverse) := by
    rw [List.isPrefixOf?_eq_some_iff_append_eq]
    simp
  rw [hasTomlEnding, hcut]
  simpa using h

/-- The file at a path is a well-formed document of settings alone, each with a value of its
kind, and its ending says that it is one. -/
structure IsFile (ws : Workspace) (path : String) (entries : Entries) : Prop where
  ending : ∃ stem last, path = stem ++ String.singleton last ++ ".toml" ∧ last ≠ '/'
  document : ∃ text, ws.read path = .ok text ∧ Toml.read? text = some entries
  known : ∀ e ∈ entries, ∃ k : Setting, e.1 = k.key
  declared : ∀ k : Setting, ∀ e ∈ entries, e.1 = k.key → (k.kind.read? .strict e.2).isSome = true

namespace IsFile

variable {ws : Workspace} {path : String} {entries : Entries}

theorem fromFile_eq (h : IsFile ws path entries) :
    fromFile ws path = orBad (ofTable? .strict entries) := by
  obtain ⟨text, hread, hdocument⟩ := h.document
  rw [fromFile, hread]
  show orBad (Toml.read? text >>= ofTable? .strict) = _
  rw [hdocument]
  rfl

theorem isNarrow (h : IsFile ws path entries) : Toml.entriesAreNarrow entries = true := by
  have hall : ∀ {es : Entries}, (∀ e ∈ es, e.2.isNarrow = true) →
      Toml.entriesAreNarrow es = true := by
    intro es
    induction es with
    | nil => intro _; rfl
    | cons e es ih =>
        intro hes
        rw [Toml.entriesAreNarrow, hes e (by simp), ih fun f hf => hes f (by simp [hf])]
        rfl
  refine hall fun e he => ?_
  obtain ⟨k, hk⟩ := h.known e he
  obtain ⟨x, hx⟩ := Option.isSome_iff_exists.mp (h.declared k e he hk)
  exact (Setting.Kind.of_strict hx).2

theorem exists_read? (h : IsFile ws path entries) {k : Setting} {v : Toml}
    (hv : entries.lookup k.key = some v) : ∃ x, k.kind.read? .strict v = some x := by
  obtain ⟨before, after, hentries, -⟩ := List.lookup_eq_some_iff.mp hv
  exact Option.isSome_iff_exists.mp (h.declared k (k.key, v) (by simp [hentries]) rfl)

/-- The file is found under its name, and both readers see the same entries. -/
theorem fileEntries?_eq (h : IsFile ws path entries) :
    fileEntries? ws (some path) = some entries := by
  obtain ⟨text, hread, hdocument⟩ := h.document
  obtain ⟨stem, last, hpath, hlast⟩ := h.ending
  have hending : hasTomlEnding path = true := hpath ▸ hasTomlEnding_append stem hlast
  obtain ⟨bytes, hbytes, htext⟩ : ∃ bytes, ws.bytes? path = some bytes ∧
      Utf8.decode? bytes = some text := by
    rw [Workspace.read] at hread
    split at hread
    · rename_i found hfound
      rw [Except.ok.injEq] at hread
      rw [hread, Option.bind_eq_some_iff] at hfound
      exact hfound
    · simp at hread
  simp [fileEntries?, locate?, entriesAt?, hbytes, hending, read?_decode htext hdocument,
    h.isNarrow]

end IsFile

end Settings

end DtoForge
