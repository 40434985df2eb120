/-
Reading strings, numbers and dates of a TOML text.

Each reader takes its value from the front of a text and returns what is left.
-/
import DtoForge.Json.Reader
import DtoForge.Text.Trim
import DtoForge.Toml.Basic

namespace DtoForge.Toml

/-! ### Characters -/

/-- The white space inside a line. -/
def isSpace (c : Char) : Bool :=
  c == ' ' || c == '\t'

/-- The text from its first character that is no white space inside a line. -/
def skip (s : List Char) : List Char :=
  s.dropWhile isSpace

/-- Control characters, which no text holds as they are.  The tab is not among them. -/
def isControl (c : Char) : Bool :=
  (c.toNat < 0x20 && c != '\t') || c.toNat == 0x7F

/-- The digits of base sixteen, in either case. -/
def isHexDigit (c : Char) : Bool :=
  (Json.hexValue? c).isSome

/-- The number of digits in a base up to sixteen. -/
def ofDigits (base : Nat) (ds : List Char) : Nat :=
  ds.foldl (fun n c => n * base + (Json.hexValue? c).getD 0) 0

/-! ### Strings -/

/-- The character of a code, unless it is a surrogate or too large. -/
def ofCode? (n : Nat) : Option Char :=
  if n.isValidChar then some (Char.ofNat n) else none

/-- The character whose code so many digits of base sixteen give. -/
def coded? (count : Nat) (s : List Char) : Option (Char × List Char) :=
  let ds := s.take count
  if ds.length = count && ds.all isHexDigit then
    (ofCode? (ofDigits 16 ds)).map fun c => (c, s.drop count)
  else none

/-- The character of an escape, after the backslash. -/
def escape? : List Char → Option (Char × List Char)
  | '"' :: r => some ('"', r)
  | '\\' :: r => some ('\\', r)
  | 'b' :: r => some ('\x08', r)
  | 'e' :: r => some ('\x1b', r)
  | 'f' :: r => some ('\x0c', r)
  | 'n' :: r => some ('\n', r)
  | 'r' :: r => some ('\r', r)
  | 't' :: r => some ('\t', r)
  | 'x' :: r => coded? 2 r
  | 'u' :: r => coded? 4 r
  | 'U' :: r => coded? 8 r
  | _ => none

/-- The rest of a string in double quotes. -/
def basicFrom (done : List Char) (s : List Char) : Option (String × List Char) :=
  match s with
  | [] => none
  | '"' :: r => some (String.ofList done.reverse, r)
  | '\\' :: r =>
    match escape? r with
    | none => none
    | some (c, r') => if r'.length ≤ r.length then basicFrom (c :: done) r' else none
  | c :: r => if isControl c then none else basicFrom (c :: done) r
termination_by s.length

/-- The rest of a string in single quotes. -/
def literalFrom (done : List Char) : List Char → Option (String × List Char)
  | [] => none
  | '\'' :: r => some (String.ofList done.reverse, r)
  | c :: r => if isControl c then none else literalFrom (c :: done) r

/-- The text from its first character that is no white space, after a line that ends with
a backslash. -/
def skipFold (s : List Char) : List Char :=
  s.dropWhile fun c => isSpace c || c == '\n' || c == '\r'

/-- The text after a line end at its front, if there is one. -/
def afterLineEnd? : List Char → Option (List Char)
  | '\n' :: r => some r
  | '\r' :: '\n' :: r => some r
  | _ => none

/-- The end of a string over several lines, at the first of three quotes or more.  Up to two
more belong to the string. -/
def closeLong (quote : Char) (done : List Char) (r : List Char) : String × List Char :=
  let more := (r.takeWhile (· == quote)).length.min 2
  (String.ofList (List.replicate more quote ++ done).reverse, r.drop more)

/-- The rest of a string in double quotes over several lines. -/
def longBasicFrom (done : List Char) (s : List Char) : Option (String × List Char) :=
  match s with
  | [] => none
  | '"' :: '"' :: '"' :: r => some (closeLong '"' done r)
  | '\\' :: r =>
    match afterLineEnd? (skip r) with
    | some r' =>
      if (skipFold r').length ≤ r.length then longBasicFrom done (skipFold r') else none
    | none =>
      match escape? r with
      | none => none
      | some (c, r') => if r'.length ≤ r.length then longBasicFrom (c :: done) r' else none
  | '\r' :: '\n' :: r => longBasicFrom ('\n' :: done) r
  | c :: r => if isControl c && c != '\n' then none else longBasicFrom (c :: done) r
termination_by s.length

/-- The rest of a string in single quotes over several lines. -/
def longLiteralFrom (done : List Char) : List Char → Option (String × List Char)
  | [] => none
  | '\'' :: '\'' :: '\'' :: r => some (closeLong '\'' done r)
  | '\r' :: '\n' :: r => longLiteralFrom ('\n' :: done) r
  | c :: r => if isControl c && c != '\n' then none else longLiteralFrom (c :: done) r

/-- A string over several lines starts after the line end that follows its quotes. -/
def openLong (s : List Char) : List Char :=
  (afterLineEnd? s).getD s

/-- A string of one line. -/
def shortString? : List Char → Option (String × List Char)
  | '"' :: r => basicFrom [] r
  | '\'' :: r => literalFrom [] r
  | _ => none

/-- A string. -/
def string? : List Char → Option (String × List Char)
  | '"' :: '"' :: '"' :: r => longBasicFrom [] (openLong r)
  | '\'' :: '\'' :: '\'' :: r => longLiteralFrom [] (openLong r)
  | s => shortString? s

/-! ### Numbers -/

/-- Digits in which single low lines may stand between two digits. -/
def digits? (isDigit : Char → Bool) (s : List Char) : Option (List Char) :=
  let groups := Text.splitAt '_' s
  if groups.all fun g => !g.isEmpty && g.all isDigit then some groups.flatten else none

/-- An integer of 128 bits, one of which may be its sign. -/
def bounded? (i : Int) : Option Toml :=
  if -(Int.pow 2 127) ≤ i ∧ i < Int.pow 2 128 then some (.integer i) else none

/-- A number in a base that its start names. -/
def based? (base : Nat) (isDigit : Char → Bool) (s : List Char) : Option Toml := do
  let ds ← digits? isDigit s
  bounded? (ofDigits base ds)

/-- Whole digits, of which the first is zero only if it is the only one. -/
def whole? (s : List Char) : Option (List Char) := do
  let ds ← digits? Char.isDigit s
  if ds.length > 1 && ds.head? == some '0' then none else some ds

/-- A sign, if there is one, and what follows it. -/
def signed : List Char → Bool × List Char
  | '-' :: r => (true, r)
  | '+' :: r => (false, r)
  | r => (false, r)

/-- The parts of a text before and after the first character that `cut` accepts. -/
def cutAt (cut : Char → Bool) (s : List Char) : List Char × Option (List Char) :=
  match s.dropWhile (!cut ·) with
  | [] => (s, none)
  | _ :: r => (s.takeWhile (!cut ·), some r)

/-- A number with a point or an exponent. -/
def float? (isNegative : Bool) (s : List Char) : Option Toml := do
  let (mantissa, power?) := cutAt (fun c => c == 'e' || c == 'E') s
  let (whole, fraction?) := cutAt (· == '.') mantissa
  let whole ← whole? whole
  let fraction ← match fraction? with
    | none => some []
    | some f => digits? Char.isDigit f
  let power ← match power? with
    | none => some 0
    | some p =>
      let (isBelow, p) := signed p
      (digits? Char.isDigit p).map fun ds =>
        (if isBelow then -1 else 1) * (ofDigits 10 ds : Int)
  if fraction?.isNone && power?.isNone then none
  else
    let x ← Binary64.ofDecimal isNegative (ofDigits 10 (whole ++ fraction))
      (power - fraction.length)
    some (.float (.finite x))

/-- A number from all of its characters. -/
def number? (s : List Char) : Option Toml :=
  match s with
  | '0' :: 'x' :: r => based? 16 isHexDigit r
  | '0' :: 'o' :: r => based? 8 (fun c => '0' ≤ c && c ≤ '7') r
  | '0' :: 'b' :: r => based? 2 (fun c => c == '0' || c == '1') r
  | _ =>
    let (isNegative, r) := signed s
    if r == ['i', 'n', 'f'] then some (.float (.infinite isNegative))
    else if r == ['n', 'a', 'n'] then some (.float .notANumber)
    else match whole? r with
      | some ds => bounded? ((if isNegative then -1 else 1) * (ofDigits 10 ds : Int))
      | none => float? isNegative r

/-! ### Dates and times -/

/-- So many digits at the front of a text, if their number lies within bounds. -/
def field? (count low high : Nat) (s : List Char) : Option (Nat × List Char) :=
  let ds := s.take count
  let n := ofDigits 10 ds
  if ds.length = count && ds.all Char.isDigit && low ≤ n && n ≤ high then
    some (n, s.drop count)
  else none

/-- What follows a character at the front of a text. -/
def after? (c : Char) : List Char → Option (List Char)
  | d :: r => if c = d then some r else none
  | [] => none

/-- How many days a month has. -/
def daysIn (year month : Nat) : Nat :=
  if month = 2 then
    if year % 4 = 0 && (year % 100 != 0 || year % 400 = 0) then 29 else 28
  else if month = 4 || month = 6 || month = 9 || month = 11 then 30 else 31

/-- What follows a date at the front of a text. -/
def date? (s : List Char) : Option (List Char) := do
  let (year, r) ← field? 4 0 9999 s
  let (month, r) ← after? '-' r >>= field? 2 1 12
  let (_, r) ← after? '-' r >>= field? 2 1 (daysIn year month)
  some r

/-- The digits of a second's fraction to the ninth, without zeros at the end. -/
def fraction (ds : List Char) : List Char :=
  match ((ds.take 9).reverse.dropWhile (· == '0')).reverse with
  | [] => []
  | kept => '.' :: kept

/-- The seconds of a time and what follows them.  They may be left out, and are zero then. -/
def seconds? : List Char → Option (List Char × List Char)
  | ':' :: s => do
    let (_, r) ← field? 2 0 60 s
    match r with
    | '.' :: f =>
      let ds := f.takeWhile Char.isDigit
      if ds.isEmpty then none
      else some (':' :: s.take 2 ++ fraction ds, f.drop ds.length)
    | r => some (':' :: s.take 2, r)
  | r => some ([':', '0', '0'], r)

/-- A time of the day at the front of a text, and what follows it. -/
def time? (s : List Char) : Option (List Char × List Char) := do
  let (_, r) ← field? 2 0 23 s
  let (_, r) ← after? ':' r >>= field? 2 0 59
  (seconds? r).map fun (seconds, r) => (s.take 5 ++ seconds, r)

/-- An offset from universal time, or nothing. -/
def offset? : List Char → Option (List Char)
  | [] => some []
  | ['Z'] | ['z'] => some ['Z']
  | c :: r => do
    if c != '+' && c != '-' then none
    let (_, t) ← field? 2 0 23 r
    let (_, t) ← after? ':' t >>= field? 2 0 59
    if t.isEmpty then some (c :: r) else none

/-- A date, a time, or both, in its usual form: between the two stands a `T`. -/
def datetime? (s : List Char) : Option (List Char) :=
  match date? s with
  | some [] => some s
  | some (c :: r) =>
    if c == 'T' || c == 't' || c == ' ' then do
      let (time, r) ← time? r
      let offset ← offset? r
      some (s.take 10 ++ 'T' :: time ++ offset)
    else none
  | none =>
    match time? s with
    | some (time, []) => some time
    | _ => none

/-! ### Words -/

/-- The characters of values that are neither strings nor brackets. -/
def isBare (c : Char) : Bool :=
  c.isAlphanum || c == '+' || c == '-' || c == '.' || c == '_' || c == ':'

/-- How many characters the word at the front of a text has.  A date and its time may stand
apart by one space. -/
def wordLength (s : List Char) : Nat :=
  let w := s.takeWhile isBare
  match s.drop w.length with
  | ' ' :: c :: r =>
    if (date? w).any List.isEmpty && c.isDigit then
      w.length + 1 + ((c :: r).takeWhile isBare).length
    else w.length
  | _ => w.length

/-- The value of a word. -/
def ofWord? (w : List Char) : Option Toml :=
  if w == "true".toList then some (.boolean true)
  else if w == "false".toList then some (.boolean false)
  else match datetime? w with
    | some text => some (.datetime (String.ofList text))
    | none => number? w

/-- A truth value, a number or a date. -/
def word? (s : List Char) : Option (Toml × List Char) :=
  (ofWord? (s.take (wordLength s))).map fun value => (value, s.drop (wordLength s))

end DtoForge.Toml
