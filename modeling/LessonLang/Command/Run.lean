import LessonLang.Command.Options
import LessonLang.Project
import LessonLang.Run

/-!
The run command.

* `Answers` is where the answers to prompts come from: the console, or a list.
* `Machine.drive` steps a machine in a shell until it halts, printing what it prints and answering
  what it asks.
* `chooseProgram` selects what to run, by the arguments and the manifest, and `runCommand` runs it.

An exit code is zero if all went well, one if a command failed and said why, and two if it broke down.
-/

namespace LessonLang

/-- What a command reports about its success. -/
abbrev ExitCode := UInt32

variable {m : Type → Type} [Monad m] [Shell m]

/-- Prints a line on the console. -/
def printLine (text : Text) : m Unit := Shell.print (text ++ [0x0a])

/-- Prints a line on the console for messages. -/
def complainLine (text : Text) : m Unit := Shell.complain (text ++ [0x0a])

/-- Ends a command with a message. -/
def giveUp (text : Text) : m ExitCode := do
  complainLine text
  pure 1

/-- Ends a command that broke down. -/
def breakDown (text : Text) : m ExitCode := do
  complainLine (utf8 "panic: " ++ text)
  pure 2

/-- Ends a command that a program made fail. -/
def giveUpOn (path : Text) (d : Diagnostic) : m ExitCode := giveUp (d.described path)

/-! ### Running a program -/

/-- Where answers to prompts come from. -/
inductive Answers where
  | typed
  | preset (left : List Text)
  deriving DecidableEq, Repr

namespace Answers

/-- A line without its ending. -/
def withoutEnding (line : Text) : Text :=
  (line.reverse.dropWhile fun b => b == 0x0a || b == 0x0d).reverse

/-- Answers a prompt. A prompt for a typed answer is shown; the answer is then a line of the input, and
empty at its end. A list answers silently, and when it is used up every answer is empty. -/
def next (prompt : Text) : Answers → m (Machine.Answer × Answers)
  | typed => do
    Shell.print (prompt ++ [0x20])
    match ← Shell.readLine with
    | .ok line => pure (.ok (withoutEnding line), typed)
    | .error problem => pure (.error (.host problem), typed)
  | preset [] => pure (.ok [], preset [])
  | preset (a :: rest) => pure (.ok a, preset rest)

end Answers

/-- Steps a machine until it halts, if it does so within `fuel` steps. -/
@[specialize]
def Machine.drive (limit : Nat) : (fuel : Nat) → Machine → Answers → m (Option Machine)
  | 0, _, _ => pure none
  | fuel + 1, machine, answers =>
    match machine.step limit false with
    | .halt => pure (some machine)
    | .next machine => drive limit fuel machine answers
    | .emit text machine => do
      printLine text
      drive limit fuel machine answers
    | .ask name machine => do
      let (answer, answers) ← answers.next (promptText name)
      drive limit fuel (machine.answer false answer) answers

/-- Runs the program at a path. A run that does not end within `fuel` steps is given up. -/
def execute (fuel : Nat) (path : Text) (depth : Option Nat) (answers : Answers) : m ExitCode := do
  match ← readProgram path with
  | .error d => giveUpOn path d
  | .ok program =>
    let limit := (Interpreter.new (depth.map Int.ofNat)).limit
    match ← (Machine.ofProgram program).drive limit fuel answers with
    | none => pure 1
    | some machine =>
      match machine.failure? with
      | some f => giveUpOn path (.run f)
      | none => pure 0

/-! ### Choosing a program -/

/-- An argument that means a file: by its ending, by a separator in it, or because there is such a
file. -/
def meansFile (argument : Text) : m Bool := do
  if argument.endsWith (utf8 ".dada") || argument.contains Path.slash then pure true
  else match ← Shell.isDirectory argument with
    | .ok directory => pure !directory
    | .error _ => pure false

/-- What to run. -/
inductive Choice where
  | file (path : Text)
  | target (manifest : Manifest) (t : Target)

/-- Chooses in a project. Without an argument it is the first target; an argument is a file, or else
the name of a target. -/
def chooseIn (manifest : Manifest) (entry : Text) : m (Except Text Choice) := do
  if entry.isEmpty then
    match manifest.defaultTarget with
    | none => pure (.error (utf8 "manifest error: " ++ Manifest.noTargetsMessage))
    | some none => pure (.ok (.file entry))
    | some (some t) => pure (.ok (.target manifest t))
  else if ← meansFile entry then pure (.ok (.file entry))
  else match manifest.findTarget? entry with
    | none => pure (.error (utf8 "unknown target " ++ entry.quoted))
    | some t => pure (.ok (.target manifest t))

/-- Chooses what to run. A manifest that cannot be loaded does not matter for a file, which is run with
a warning. -/
def chooseProgram (entry : Text) : m (Except Text Choice) := do
  match ← currentManifest with
  | none =>
    if entry.isEmpty then
      pure (.error
        (utf8 "dada run requires a manifest target or source file (dada.yml not found)"))
    else pure (.ok (.file entry))
  | some (.ok manifest) => chooseIn manifest entry
  | some (.error e) =>
    let isFile ← if entry.isEmpty then pure false else meansFile entry
    if isFile then
      complainLine (utf8 "warning: unable to load manifest (" ++ e.message
        ++ utf8 "); falling back to direct file execution")
      pure (.ok (.file entry))
    else pure (.error (utf8 "failed to load manifest: " ++ e.message))

/-- The answers that were given with the arguments, or else those of the target, or else typed
ones. -/
def RunOptions.answers (o : RunOptions) (target : List Text) : Answers :=
  if o.hasInputs then .preset o.inputs
  else if target.isEmpty then .typed
  else .preset target

/-- Runs what was chosen. -/
def runChoice (fuel : Nat) (o : RunOptions) : Choice → m ExitCode
  | .file path => execute fuel path o.maxDepth (o.answers [])
  | .target manifest t => do
    match ← locateProgram manifest t with
    | .error (.resolve .nothingDeclared) => breakDown ResolveError.nothingDeclared.message
    | .error e =>
      giveUp (utf8 "failed to resolve target " ++ t.label.quoted ++ utf8 ": " ++ e.message)
    | .ok path => execute fuel path o.maxDepth (o.answers t.inputs)

/-- Runs a program. -/
def runCommand (fuel : Nat) (args : List Text) : m ExitCode := do
  match RunOptions.parse args with
  | (_, some e) => giveUp e.message
  | (options, none) =>
    match ← chooseProgram options.entry with
    | .error message => giveUp message
    | .ok choice => runChoice fuel options choice

end LessonLang
