/-
How the commands go together.

Whatever the options are, the command that follows them changes neither what they mean nor
what is generated.  So listing and rendering fail over the same, and otherwise print the same
files.  And since a run that fails has printed nothing, neither leaves some of them behind.
-/
import DtoForge.Proofs.CommandLine.Printing
import DtoForge.Proofs.Workspace.Tree

namespace DtoForge

namespace Arguments

/-! ### Options and a command -/

/-- The words of options, each with its value, and of the command behind them. -/
def words (options : List (PathOption × String)) (c : Command) : List String :=
  options.flatMap (fun o => [o.1.word, o.2]) ++ [c.word]

/-- The arguments with the values of further options. -/
def take? (a : Arguments) : List (PathOption × String) → Option Arguments
  | [] => some a
  | (o, value) :: options =>
    if isValue value then (a.set? o value).bind fun a => take? a options else none

theorem ofWord?_option (o : PathOption) :
    Command.ofWord? o.word = none ∧ PathOption.ofWord? o.word = some (o, none) := by
  cases o <;> exact ⟨by decide, by decide⟩

theorem read?_option (a : Arguments) (o : PathOption) (value : String) (rest : List String) :
    read? a (o.word :: value :: rest)
      = if isValue value then (a.set? o value).bind fun a => read? a rest else none := by
  obtain ⟨hcommand, hoption⟩ := ofWord?_option o
  rw [read?, hcommand, hoption]

/-- The command behind the options is all that it adds to them. -/
theorem read?_words (options : List (PathOption × String)) (c : Command) :
    ∀ a : Arguments, read? a (words options c)
      = (a.take? options).map fun b => { b with command := c } := by
  induction options with
  | nil =>
      intro a
      rw [words, List.flatMap_nil, List.nil_append, read?, Command.ofWord?_word]
      rfl
  | cons o options ih =>
      obtain ⟨option, value⟩ := o
      intro a
      show read? a (option.word :: value :: words options c) = _
      rw [read?_option, take?]
      by_cases hvalue : isValue value = true
      · rw [if_pos hvalue, if_pos hvalue, Option.map_bind]
        simp only [ih]
        rfl
      · rw [if_neg hvalue, if_neg hvalue, Option.map_none]

/-! ### What the commands print -/

section

variable (a : Arguments) (ws : Workspace) (env : Settings.Environment)

/-- The files that are generated with the arguments, whatever their command is. -/
def files : Except Fault (List GeneratedFile) := do
  let s ← a.settings ws env
  ws.checkedGenerate s

theorem files_command (c : Command) : { a with command := c }.files ws env = a.files ws env := rfl

/-- A command that prints generated files prints all that are generated. -/
theorem run_eq_files {print : List GeneratedFile → Printing Unit}
    (hprint : ∀ s, Report.perform ws s a.command = liftM (ws.generate s) >>= print) :
    a.run ws env = liftM (a.files ws env) >>= print := by
  unfold run files perform Workspace.checkedGenerate
  cases a.settings ws env with
  | error f => rfl
  | ok s =>
      show (liftM (ws.check s) >>= fun _ => Report.perform ws s a.command)
        = liftM (ws.check s >>= fun _ => ws.generate s) >>= print
      rw [hprint]
      cases ws.check s with
      | error f => rfl
      | ok _ => rfl

end

end Arguments

namespace Outcome

/-- A run that fails silently leaves no output behind where it fails. -/
theorem stdout_ofPrinting {p : Printing Unit} (hsilent : p.FailsSilently)
    (hexit : (ofPrinting p).exit ≠ 0) : (ofPrinting p).stdout = "" := by
  unfold ofPrinting at hexit ⊢
  cases hrun : p.after "" with
  | mk result printed =>
      cases result with
      | ok _ => simp [hrun] at hexit
      | error f => exact hsilent "" f printed hrun

/-- The outcome of a run that has a text to print, or fails. -/
def ofResult : Except Fault String → Outcome
  | .ok text => ⟨0, text, ""⟩
  | .error f => ⟨1, "", "Error: " ++ faultText f ++ "\n"⟩

/-- What is looked up and then printed might as well be printed at once. -/
theorem ofPrinting_lift_bind {α : Type} {p : α → Printing Unit} {text : α → String}
    (hprints : ∀ y, (p y).Prints (text y)) (x : Except Fault α) :
    ofPrinting (liftM x >>= p) = ofResult (x.map text) := by
  rw [ofPrinting, Printing.after_lift_bind]
  cases x with
  | error f => rfl
  | ok y => simp only [hprints y "", String.empty_append, Except.map, ofResult]

theorem exit_ofResult_map {α : Type} (result : Except Fault α) (print print' : α → String) :
    (ofResult (result.map print)).exit = (ofResult (result.map print')).exit := by
  cases result with
  | error f => rfl
  | ok a => rfl

theorem exists_ok_of_exit_eq_zero {α : Type} {result : Except Fault α} {print : α → String}
    (h : (ofResult (result.map print)).exit = 0) : ∃ a, result = .ok a := by
  cases result with
  | error f => exact absurd h Nat.one_ne_zero
  | ok a => exact ⟨a, rfl⟩

end Outcome

/-! ### The commands side by side -/

section

variable (options : List (PathOption × String)) (ws : Workspace) (env : Settings.Environment)

/-- What a command leaves behind that stands behind options. -/
def Command.leaves (c : Command) : Outcome :=
  runWords (Arguments.words options c) ws env

/-- With options that cannot be taken, a command line is misused, whatever its command is. -/
theorem Command.leaves_of_none (htake : Arguments.take? {} options = none) (c : Command) :
    c.leaves options ws env = .misused := by
  rw [leaves, runWords, Arguments.ofWords?, Arguments.read?_words, htake]
  rfl

theorem Command.leaves_of_some {a : Arguments} (htake : Arguments.take? {} options = some a)
    (c : Command) :
    c.leaves options ws env = .ofPrinting ({ a with command := c }.run ws env) := by
  rw [leaves, runWords, Arguments.ofWords?, Arguments.read?_words, htake]
  rfl

theorem Command.leaves_list {a : Arguments} (htake : Arguments.take? {} options = some a) :
    Command.list.leaves options ws env = .ofResult
      ((a.files ws env).map fun files => String.join (files.map fun f => f.path ++ "\n")) := by
  rw [leaves_of_some options ws env htake, Arguments.run_eq_files _ ws env fun _ => rfl,
    Arguments.files_command]
  exact Outcome.ofPrinting_lift_bind Report.prints_list _

theorem Command.leaves_render {a : Arguments} (htake : Arguments.take? {} options = some a) :
    Command.render.leaves options ws env = .ofResult
      ((a.files ws env).map fun files => String.join
        (files.map fun f => "// " ++ f.path ++ "\n" ++ f.content ++ "\n")) := by
  rw [leaves_of_some options ws env htake, Arguments.run_eq_files _ ws env fun _ => rfl,
    Arguments.files_command]
  exact Outcome.ofPrinting_lift_bind Report.prints_render _

/-- What the commands leave behind after the same options fits together. -/
structure Accord : Prop where
  /-- Listing and rendering end alike. -/
  exit_eq : (Command.list.leaves options ws env).exit = (Command.render.leaves options ws env).exit
  /-- They do not fail where files are generated with the options. -/
  succeeds : ∀ a files, Arguments.take? {} options = some a → a.files ws env = .ok files →
    (Command.list.leaves options ws env).exit = 0
  /-- Where they do not fail, they print these files: one the paths, and the other the paths and
  what is in the files. -/
  printed : (Command.list.leaves options ws env).exit = 0 →
    ∃ a files, Arguments.take? {} options = some a ∧ a.files ws env = .ok files ∧
      (Command.list.leaves options ws env).stdout
        = String.join (files.map fun f => f.path ++ "\n") ∧
      (Command.render.leaves options ws env).stdout
        = String.join (files.map fun f => "// " ++ f.path ++ "\n" ++ f.content ++ "\n")
  /-- A command that fails prints nothing. -/
  silent : ∀ c : Command, (c.leaves options ws env).exit ≠ 0 →
    (c.leaves options ws env).stdout = ""

/-- **Whatever the options, the files and the environment are, the commands fit together.** -/
theorem accord_of_options : Accord options ws env := by
  cases htake : Arguments.take? {} options with
  | none =>
      have hmisused := Command.leaves_of_none options ws env htake
      refine ⟨?_, ?_, ?_, ?_⟩
      · rw [hmisused, hmisused]
      · intro a files htaken
        rw [htake] at htaken
        cases htaken
      · intro hexit
        rw [hmisused] at hexit
        exact absurd hexit (Nat.succ_ne_zero 1)
      · intro c _
        rw [hmisused]
        rfl
  | some a =>
      have hlist := Command.leaves_list options ws env htake
      have hrender := Command.leaves_render options ws env htake
      refine ⟨?_, ?_, ?_, ?_⟩
      · rw [hlist, hrender]
        exact Outcome.exit_ofResult_map _ _ _
      · intro b files htaken hfiles
        rw [htake] at htaken
        cases htaken
        rw [hlist, hfiles]
        rfl
      · intro hexit
        rw [hlist] at hexit
        obtain ⟨files, hfiles⟩ := Outcome.exists_ok_of_exit_eq_zero hexit
        refine ⟨a, files, htake, hfiles, ?_, ?_⟩
        · rw [hlist, hfiles]
          rfl
        · rw [hrender, hfiles]
          rfl
      · intro c
        rw [Command.leaves_of_some options ws env htake]
        exact Outcome.stdout_ofPrinting (Arguments.failsSilently_run _ ws env)

end

/-- The paths for a schema of one model without fields. -/
example :
    (Command.list.leaves [(.schema, "s.json"), (.output, "o")]
      (FileTree.ofFiles
        [("s.json", "\x7b\"models\":[\x7b\"name\":\"A\"\x7d]\x7d".toUTF8.toList)]).workspace
      []).stdout
      = "o/create-a.dto.ts\no/update-a.dto.ts\no/a.entity.ts\no/a.dto.ts\n" := by
  decide +kernel

end DtoForge
