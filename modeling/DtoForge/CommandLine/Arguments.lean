/-
The arguments of the command line.

Options come first, each at most once and never without a value, and one command may
follow.  Nothing follows the command.
-/
namespace DtoForge

/-- What to do with the schema. -/
inductive Command
  /-- Print every generated file. -/
  | render
  /-- Print the paths of the generated files. -/
  | list
  /-- Print the fields of the models and their validators. -/
  | inspect
  deriving DecidableEq, Repr

/-- The arguments of a run. -/
structure Arguments where
  config : Option String := none
  /-- Takes the place of the schema file of the configuration. -/
  schema : Option String := none
  /-- Takes the place of the output directory of the configuration. -/
  output : Option String := none
  command : Command := .render
  deriving DecidableEq, Repr

/-! ### Words -/

namespace Command

/-- The word for a command. -/
def word : Command → String
  | render => "render"
  | list => "list"
  | inspect => "inspect"

/-- The command of a word. -/
def ofWord? (w : String) : Option Command :=
  [render, list, inspect].find? (·.word == w)

theorem ofWord?_word (c : Command) : ofWord? c.word = some c := by
  cases c <;> decide

end Command

/-- An option that takes a path. -/
inductive PathOption
  | config
  | schema
  | output
  deriving DecidableEq, Repr

namespace PathOption

/-- The long form of an option. -/
def word : PathOption → String
  | config => "--config"
  | schema => "--schema"
  | output => "--output"

/-- The short form of an option. -/
def letter : PathOption → Char
  | config => 'c'
  | schema => 's'
  | output => 'o'

/-- Every option. -/
def all : List PathOption := [config, schema, output]

/-- The value after a short option in the same word, if there is one.  An equals sign may
stand between them. -/
def attached : List Char → Option String
  | [] => none
  | '=' :: value => some (String.ofList value)
  | value => some (String.ofList value)

/-- The option of a word, and its value if that stands in the same word. -/
def ofWord? (w : String) : Option (PathOption × Option String) :=
  match w.toList with
  | '-' :: '-' :: _ =>
    all.findSome? fun o =>
      match o.word.toList.isPrefixOf? w.toList with
      | some [] => some (o, none)
      | some ('=' :: value) => some (o, some (String.ofList value))
      | _ => none
  | '-' :: c :: r => (all.find? (·.letter == c)).map fun o => (o, attached r)
  | _ => none

end PathOption

/-! ### Reading -/

namespace Arguments

/-- The value that an option has so far. -/
def value? (a : Arguments) : PathOption → Option String
  | .config => a.config
  | .schema => a.schema
  | .output => a.output

/-- The arguments with a value for an option.  A value is not empty and not given twice. -/
def set? (a : Arguments) (o : PathOption) (value : String) : Option Arguments :=
  if value.isEmpty || (a.value? o).isSome then none
  else some <| match o with
    | .config => { a with config := some value }
    | .schema => { a with schema := some value }
    | .output => { a with output := some value }

/-- Whether a word can be the value of the option before it.  Another option cannot. -/
def isValue (w : String) : Bool :=
  w == "-" || w.toList.head? != some '-'

/-- The arguments after further words. -/
def read? (a : Arguments) : List String → Option Arguments
  | [] => some a
  | w :: rest =>
    match Command.ofWord? w with
    | some command => if rest.isEmpty then some { a with command } else none
    | none =>
      match PathOption.ofWord? w with
      | none => none
      | some (o, some value) => (a.set? o value).bind fun a => read? a rest
      | some (o, none) =>
        match rest with
        | [] => none
        | value :: rest =>
          if isValue value then (a.set? o value).bind fun a => read? a rest else none

/-- The arguments that the words of a command line give. -/
def ofWords? (words : List String) : Option Arguments :=
  read? {} words

end Arguments

end DtoForge
