/-
Asking a validator of each element.

A validator is asked of every element of a list when its last argument, an object of
options, says `each: true`.  The rule works on the text of the arguments.  A text that
speaks of `each:` is left alone.  Otherwise missing default arguments are filled in and
the options are put at the end, or they are joined to an object that is there already
and that no argument slot claims.

Objects are recognised by their braces alone: a first pair of braces on a line counts as
one argument, and only a closing brace at the very end is opened again.
-/
import DtoForge.Text.Search
import DtoForge.Text.Trim
import DtoForge.Validation.Catalog

namespace DtoForge.Each

/-! ### The text of arguments -/

/-- The options that ask for each element. -/
def options : List Char := "\x7b each: true \x7d".toList

/-- The arguments, cut at every comma.  White space after a comma is dropped. -/
def arguments (s : List Char) : List (List Char) :=
  match Text.splitAt ',' s with
  | [] => []
  | first :: rest => first :: rest.map Text.trimStart

/-- What follows the last closing brace of the line. -/
def afterLastBrace? : List Char → Option (List Char)
  | [] => none
  | c :: r =>
    if c = '\n' then none
    else match afterLastBrace? r with
      | some rest => some rest
      | none => if c = '\x7d' then some r else none

/-- The text with the first object on a line made one character.  An object runs from the
first opening brace that is closed on its line to the last brace that closes there. -/
def collapse : List Char → List Char
  | [] => []
  | c :: r =>
    if c = '\x7b' then
      match afterLastBrace? r with
      | some rest => '_' :: rest
      | none => c :: collapse r
    else c :: collapse r

/-- The text with the options joined to the object at its end, if it ends with a closing
brace. -/
def join? (s : List Char) : Option (List Char) :=
  let kept := Text.trimEnd s
  if kept.getLast? = some '\x7d' then some (kept.dropLast ++ ", each: true \x7d".toList)
  else none

/-- The text with further arguments at its end. -/
def append (s : List Char) (more : List (List Char)) : List Char :=
  [',', ' '].intercalate (s :: more)

/-! ### The rule -/

/-- The arguments `s`, which are not empty, of a validator with the given defaults. -/
def lift (defaults? : Option (List Char)) (s : List Char) : List Char :=
  if Text.occurs "each:".toList s then s
  else match defaults? with
    | none => (join? s).getD (append s [options])
    | some defaults =>
      let slots := arguments defaults
      let supplied := (arguments (collapse s)).length
      if supplied > slots.length then (join? s).getD (append s [options])
      else append s (slots.drop supplied ++ [options])

/-- The arguments of the validator `name` once it is asked of each element. -/
def wrap (name : String) (argument : Option String) : String :=
  let defaults? := (Catalog.defaults? name).map String.toList
  String.ofList <|
    match (argument.getD "").toList, defaults? with
    | [], none => options
    | [], some defaults => append defaults [options]
    | s, _ => lift defaults? s

end DtoForge.Each
