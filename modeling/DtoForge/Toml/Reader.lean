/-
Reading keys and values of a TOML text.

Each reader takes what it reads from the front of a text and returns what is left.  Inside
an array or an inline table white space may hold line ends and comments, and a comma may
follow what stands last.  Arrays and inline tables may stand inside each other 80 deep.
-/
import DtoForge.Toml.Scalar
import DtoForge.Toml.Tree

namespace DtoForge.Toml

/-! ### White space over several lines -/

/-- The text from its first character that belongs neither to white space nor to a comment.
A comment holds no control characters. -/
def gapFrom? (inComment : Bool) : List Char → Option (List Char)
  | [] => some []
  | '\r' :: '\n' :: r => gapFrom? false r
  | '\n' :: r => gapFrom? false r
  | c :: r =>
    if inComment then if isControl c then none else gapFrom? true r
    else if c = '#' then gapFrom? true r
    else if isSpace c then gapFrom? false r
    else some (c :: r)

/-- The text after white space, line ends and comments. -/
def gap? (s : List Char) : Option (List Char) :=
  gapFrom? false s

/-- Whether a line ends here, but for white space and a comment. -/
def endsLine (s : List Char) : Bool :=
  match skip s with
  | [] => true
  | c :: r => c == '\n' || c == '#' || (c == '\r' && r.head? == some '\n')

/-! ### Keys -/

/-- The characters of keys without quotes. -/
def isKeyChar (c : Char) : Bool :=
  c.isAlphanum || c == '_' || c == '-'

/-- A key without dots. -/
def key? (s : List Char) : Option (String × List Char) :=
  match s.takeWhile isKeyChar with
  | [] => shortString? s
  | key => some (String.ofList key, s.drop key.length)

/-- A dotted key, its first part apart. -/
def path? (s : List Char) : Option ((String × List String) × List Char) :=
  match key? (skip s) with
  | none => none
  | some (key, r) =>
    match skip r with
    | '.' :: r =>
      if r.length < s.length then
        (path? r).map fun ((next, rest), r) => ((key, next :: rest), r)
      else none
    | r => some ((key, []), r)
termination_by s.length

/-! ### Arrays and inline tables -/

/-- Items up to the closing bracket, where `done` holds those read already, the last one
first.  A comma may follow the last item. -/
def itemsFrom (value? : List Char → Option (Toml × List Char)) (done : List Toml)
    (s : List Char) : Option (List Toml × List Char) :=
  match gap? s with
  | none => none
  | some (']' :: r) => some (done.reverse, r)
  | some start =>
    match value? start with
    | none => none
    | some (v, r) =>
      match gap? r with
      | some (']' :: r) => some ((v :: done).reverse, r)
      | some (',' :: r) =>
        if r.length < s.length then itemsFrom value? (v :: done) r else none
      | _ => none
termination_by s.length

/-- A key, an equals sign and a value. -/
def keyed? (value? : List Char → Option (Toml × List Char)) (s : List Char) :
    Option (((String × List String) × Toml) × List Char) := do
  let (path, r) ← path? s
  let r ← after? '=' r
  let (v, r) ← value? (skip r)
  some ((path, v), r)

/-- Entries up to the closing brace, where `done` holds those read already.  A comma may
follow the last entry. -/
def entriesFrom (value? : List Char → Option (Toml × List Char)) (done : Entries)
    (s : List Char) : Option (Entries × List Char) :=
  match gap? s with
  | none => none
  | some ('\x7d' :: r) => some (done, r)
  | some start =>
    match keyed? value? start with
    | none => none
    | some (((key, keys), v), r) =>
      match done.put? v key keys with
      | none => none
      | some done =>
        match gap? r with
        | some ('\x7d' :: r) => some (done, r)
        | some (',' :: r) =>
          if r.length < s.length then entriesFrom value? done r else none
        | _ => none
termination_by s.length

/-! ### Values -/

/-- A value, in which arrays and inline tables stand at most `depth` deep. -/
def valueWithin? (depth : Nat) (s : List Char) : Option (Toml × List Char) :=
  match s with
  | '"' :: _ => (string? s).map fun (text, r) => (.string text, r)
  | '\'' :: _ => (string? s).map fun (text, r) => (.string text, r)
  | '[' :: r =>
    match depth with
    | 0 => none
    | depth + 1 =>
      (itemsFrom (valueWithin? depth) [] r).map fun (items, r) => (.array items, r)
  | '\x7b' :: r =>
    match depth with
    | 0 => none
    | depth + 1 =>
      (entriesFrom (valueWithin? depth) [] r).map fun (entries, r) =>
        (.table (closeEntries entries), r)
  | s => word? s

/-- How deep arrays and inline tables may stand inside each other. -/
def greatestDepth : Nat := 80

/-- A value. -/
def value? (s : List Char) : Option (Toml × List Char) :=
  valueWithin? greatestDepth s

end DtoForge.Toml
