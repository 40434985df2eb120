/-
What runs have printed when they fail.

What has been printed stays printed, so a run that failed halfway would leave half of its output
behind.  No command does.  Each looks up all that it needs before it prints any of it, and
printing does not fail.
-/
import Mathlib.Tactic.Choose
import DtoForge.CommandLine.Run

namespace DtoForge

namespace Printing

section

variable {α : Type} {p q : Printing Unit} {a b : String}

theorem after_bind (p : Printing α) (next : α → Printing Unit) (out : String) :
    (p >>= next).after out = match p.after out with
      | (.ok x, printed) => (next x).after printed
      | (.error f, printed) => (.error f, printed) := by
  have hbind : (p >>= next).after out
      = StateT.run (ExceptT.bindCont next (p.after out).1) (p.after out).2 := rfl
  rw [hbind]
  rcases p.after out with ⟨f | x, printed⟩
  · rfl
  · rfl

/-- What is only looked up prints nothing. -/
theorem after_lift_bind (x : Except Fault α) (next : α → Printing Unit) (out : String) :
    ((liftM x : Printing α) >>= next).after out = match x with
      | .ok y => (next y).after out
      | .error f => (.error f, out) := by
  rw [after_bind]
  cases x with
  | ok y => rfl
  | error f => rfl

/-! ### Runs that do not fail -/

/-- A run that prints a text and does not fail. -/
def Prints (p : Printing Unit) (text : String) : Prop :=
  ∀ out, p.after out = (.ok (), out ++ text)

theorem prints_print (text : String) : Prints (print text) text :=
  fun _ => rfl

theorem prints_pure : Prints (pure ()) "" :=
  fun out => by rw [String.append_empty]; rfl

theorem Prints.seq (hp : Prints p a) (hq : Prints q b) : Prints (p >>= fun _ => q) (a ++ b) := by
  intro out
  rw [after_bind, hp out, ← String.append_assoc]
  exact hq (out ++ a)

theorem prints_forM {β : Type} {line : β → Printing Unit} {text : β → String}
    (h : ∀ x, Prints (line x) (text x)) (xs : List β) :
    Prints (xs.forM line) (String.join (xs.map text)) := by
  induction xs with
  | nil => exact prints_pure
  | cons x xs ih =>
      rw [List.map_cons, String.join_cons]
      exact (h x).seq ih

/-! ### Runs that fail -/

/-- A run that has printed nothing where it fails. -/
def FailsSilently (p : Printing Unit) : Prop :=
  ∀ out f printed, p.after out = (.error f, printed) → printed = out

theorem Prints.failsSilently (h : Prints p a) : FailsSilently p := by
  intro out f printed hfail
  rw [h out] at hfail
  exact absurd (Prod.mk.inj hfail).1 (by simp)

/-- What is looked up first may fail. -/
theorem failsSilently_lift_bind {x : Except Fault α} {next : α → Printing Unit}
    (h : ∀ y, FailsSilently (next y)) : FailsSilently (liftM x >>= next) := by
  intro out f printed hfail
  rw [after_lift_bind] at hfail
  cases x with
  | ok y => exact h y out f printed hfail
  | error e => exact (Prod.mk.inj hfail).2.symm

end

end Printing

/-! ### The commands -/

namespace Report

open Printing

theorem prints_list (files : List GeneratedFile) :
    Prints (list files) (String.join (files.map fun f => f.path ++ "\n")) :=
  prints_forM (fun _ => prints_print _) files

theorem prints_render (files : List GeneratedFile) :
    Prints (render files)
      (String.join (files.map fun f => "// " ++ f.path ++ "\n" ++ f.content ++ "\n")) := by
  refine prints_forM (fun f => ?_) files
  have hlines : "// " ++ f.path ++ "\n" ++ f.content ++ "\n"
      = "// " ++ f.path ++ "\n" ++ (f.content ++ "\n") := String.append_assoc
  rw [hlines]
  exact (prints_print _).seq (prints_print _)

theorem exists_prints_model (s : Settings) (m : Model) : ∃ text, Prints (model s m) text := by
  have hfields := prints_forM (fun f => prints_print (field s f)) m.fields
  have hrest := (prints_print "  Fields:\n").seq (hfields.seq (prints_print "\n"))
  unfold model
  cases m.dbName with
  | none => exact ⟨_, (prints_print _).seq hrest⟩
  | some table => exact ⟨_, (prints_print _).seq ((prints_print _).seq hrest)⟩

theorem exists_prints_inspect (s : Settings) (dm : Datamodel) :
    ∃ text, Prints (inspect s dm) text := by
  choose text hmodel using exists_prints_model s
  have hmodels := prints_forM hmodel dm.models
  unfold inspect
  cases dm.enums.isEmpty with
  | true => exact ⟨_, (prints_print _).seq (hmodels.seq prints_pure)⟩
  | false =>
      have henums := prints_forM (fun e => prints_print (enumeration e)) dm.enums
      exact ⟨_, (prints_print _).seq (hmodels.seq ((prints_print _).seq henums))⟩

end Report

namespace Arguments

open Printing

/-- **A run that fails has printed nothing.** -/
theorem failsSilently_run (a : Arguments) (ws : Workspace) (env : Settings.Environment) :
    FailsSilently (a.run ws env) := by
  refine failsSilently_lift_bind fun s => failsSilently_lift_bind fun _ => ?_
  cases a.command with
  | render => exact failsSilently_lift_bind fun files => (Report.prints_render files).failsSilently
  | list => exact failsSilently_lift_bind fun files => (Report.prints_list files).failsSilently
  | inspect =>
      refine failsSilently_lift_bind fun dm => ?_
      obtain ⟨text, h⟩ := Report.exists_prints_inspect s dm
      exact h.failsSilently

end Arguments

end DtoForge
