/-
The words of a name.

A name is cut at every character that is not alphanumeric.  Inside a piece a new word
starts where upper case follows lower case, and before the last capital of a row of
capitals that lower case follows.  A character without case keeps what the
characters before it have shown, and a new word has shown nothing yet.
-/
import DtoForge.Character.Alphanumeric
import DtoForge.Character.Case
import DtoForge.Text.Trim

namespace DtoForge.Text

/-! ### Cutting a name into words -/

/-- The case that the current word has shown last. -/
inductive Shown
  | nothing
  | lower
  | upper
  deriving DecidableEq, Repr

/-- What a word has shown once `c` belongs to it. -/
def Shown.note (shown : Shown) (c : Char) : Shown :=
  if isLowercase c then .lower else if isUppercase c then .upper else shown

/-- The words of a piece, where `word` has been read already. -/
def wordsFrom (shown : Shown) (word : List Char) : List Char → List (List Char)
  | [] => if word.isEmpty then [] else [word]
  | [c] => [word ++ [c]]
  | c :: next :: rest =>
    if shown.note c = .lower ∧ isUppercase next = true then
      (word ++ [c]) :: wordsFrom .nothing [] (next :: rest)
    else if shown = .upper ∧ isUppercase c = true ∧ isLowercase next = true then
      word :: wordsFrom .nothing [c] (next :: rest)
    else
      wordsFrom (shown.note c) (word ++ [c]) (next :: rest)

/-- The words of a name. -/
def words (name : List Char) : List (List Char) :=
  (splitWhere (fun c => !isAlphanumeric c) name).flatMap (wordsFrom .nothing [])

/-! ### Writing words -/

/-- A word in lower case.  A capital sigma at the end becomes the final sigma. -/
def lowerWord : List Char → List Char
  | [] => []
  | ['Σ'] => ['ς']
  | c :: r => lowerForm c ++ lowerWord r

/-- A word in lower case after its first character, which is in upper case. -/
def capitalWord : List Char → List Char
  | [] => []
  | c :: r => upperForm c ++ lowerWord r

/-- The name as one word with inner capitals. -/
def pascal (name : List Char) : List Char :=
  (words name).flatMap capitalWord

/-- The name in lower case, with hyphens between its words. -/
def kebab (name : List Char) : List Char :=
  ['-'].intercalate ((words name).map lowerWord)

end DtoForge.Text

namespace DtoForge

/-- The class name that a schema name gives. -/
def classBase (name : String) : String :=
  String.ofList (Text.pascal name.toList)

/-- The file name that a schema name gives, without its endings. -/
def fileBase (name : String) : String :=
  String.ofList (Text.kebab name.toList)

end DtoForge
