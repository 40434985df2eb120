/-
What the commands print.

A command prints piece by piece.  What it has printed stays printed, also where it fails later.
-/
import DtoForge.CommandLine.Arguments
import DtoForge.Text.Quoted
import DtoForge.Workspace.Schema

namespace DtoForge

/-- A run that may fail, on top of what has been printed so far. -/
abbrev Printing := ExceptT Fault (StateM String)

namespace Printing

/-- Prints a text. -/
def print (text : String) : Printing Unit :=
  modify (· ++ text)

/-- How a run ends, and what has been printed then, if it begins after `printed`. -/
def after {α : Type} (run : Printing α) (printed : String) : Except Fault α × String :=
  StateT.run (ExceptT.run run) printed

end Printing

namespace Report

open Printing

/-! ### Generated files -/

/-- Every file, its path in a comment before it. -/
def render (files : List GeneratedFile) : Printing Unit :=
  files.forM fun f => do
    print ("// " ++ f.path ++ "\n")
    print (f.content ++ "\n")

/-- The paths of the files, one on each line. -/
def list (files : List GeneratedFile) : Printing Unit :=
  files.forM fun f => print (f.path ++ "\n")

/-! ### Models -/

/-- The validators of a field, in the form that a create input has them in. -/
def validators (s : Settings) (f : Field) : List Decorator :=
  Validators.synthesize f.descriptor (s.className .create f.type)

/-- The type of a field, marked where it is a list or may be absent. -/
def typeText (f : Field) : String :=
  f.type ++ (if f.isList then "[]" else "") ++ (if f.isRequired then "" else "?")

/-- A field: its name and type, and below them its validators. -/
def field (s : Settings) (f : Field) : String :=
  "    - " ++ f.name ++ " " ++ typeText f ++ "\n"
    ++ "      " ++ " ".intercalate ((validators s f).map Decorator.text) ++ "\n"

/-- A model: its name, the name of its table if it has one, and its fields. -/
def model (s : Settings) (m : Model) : Printing Unit := do
  print ("Model: " ++ m.name ++ "\n")
  if let some table := m.dbName then
    print ("  Table: " ++ table ++ "\n")
  print "  Fields:\n"
  m.fields.forM fun f => print (field s f)
  print "\n"

/-- An enum and its values. -/
def enumeration (e : EnumDecl) : String :=
  "  - " ++ e.name ++ " "
    ++ String.ofList (Text.quotedList (e.values.map fun v => v.name.toList)) ++ "\n"

/-- The models and enums of a data model. -/
def inspect (s : Settings) (dm : Datamodel) : Printing Unit := do
  print ("Parsed " ++ toString dm.models.length ++ " models:\n\n")
  dm.models.forM (model s)
  if !dm.enums.isEmpty then
    print "Enums:\n"
    dm.enums.forM fun e => print (enumeration e)

/-! ### Commands -/

/-- Carries out a command. -/
def perform (ws : Workspace) (s : Settings) : Command → Printing Unit
  | .render => do render (← ws.generate s)
  | .list => do list (← ws.generate s)
  | .inspect => do inspect s (← ws.datamodel s)

end Report

end DtoForge
