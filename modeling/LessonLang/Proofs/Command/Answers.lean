import Mathlib
import LessonLang.Command
import LessonLang.Proofs.Command.Options
import LessonLang.Proofs.Machine.Queue
import LessonLang.Proofs.Project

/-!
Answers that are typed, and answers that are given with the arguments.

* `Machine.talk` is what a machine says to somebody who has a list of answers, and what it comes to. It
  is a run with the host that answers from that list (`Machine.talk_path`, `Machine.talk_run`).
* `Inspects` holds for actions that only look at files. What they find does not depend on the input.
* A command that answers from a list writes what the machine prints (`World.perform_drive_preset`), and
  one that reads the same answers from the input writes the prompts as well
  (`World.perform_drive_typed`).
* `typed_eq_preset`: typing answers comes to the same as giving them with the arguments.
-/

namespace LessonLang

/-! ### What a machine says -/

namespace Machine

variable {limit : Nat}

/-- **What a machine says** within `fuel` steps to somebody who has some answers and then empty ones,
and what it comes to if it halts. -/
def talk (limit : Nat) : (fuel : Nat) → Machine → List Text → Option Machine × List Event
  | 0, _, _ => (none, [])
  | fuel + 1, m, answers =>
    match m.step limit false with
    | .halt => (some m, [])
    | .next m => talk limit fuel m answers
    | .emit text m =>
      let (end?, es) := talk limit fuel m answers
      (end?, .output text :: es)
    | .ask name m =>
      let (end?, es) := talk limit fuel (m.answer false (.ok (answers.headD []))) answers.tail
      (end?, .prompt (promptText name) :: es)

section Steps

variable {fuel : Nat} {m m' : Machine} {answers : List Text}

/-- A machine that halts has nothing more to say. -/
lemma talk_halt (hm : m.step limit false = .halt) :
    m.talk limit (fuel + 1) answers = (some m, []) := by
  rw [talk, hm]

/-- A step that shows nothing leaves the talk as it is. -/
lemma talk_next (hm : m.step limit false = .next m') :
    m.talk limit (fuel + 1) answers = m'.talk limit fuel answers := by
  rw [talk, hm]

/-- An output is said in front of the rest. -/
lemma talk_emit {text : Text} (hm : m.step limit false = .emit text m') :
    m.talk limit (fuel + 1) answers
      = ((m'.talk limit fuel answers).1, .output text :: (m'.talk limit fuel answers).2) := by
  rw [talk, hm]

/-- A prompt is said in front of the rest, which goes on with the first answer. -/
lemma talk_ask {name : Text} (hm : m.step limit false = .ask name m') :
    m.talk limit (fuel + 1) answers
      = let r := (m'.answer false (.ok (answers.headD []))).talk limit fuel answers.tail
        (r.1, .prompt (promptText name) :: r.2) := by
  rw [talk, hm]

end Steps

/-- What is said is seen by the host that answers from a list. -/
lemma talk_path (fuel : Nat) (m : Machine) (q : Queue) (hq : q.cancelled = false) :
    ∃ n m' q', Path (Queue.host {}) limit n m q m' q'
      ∧ q'.events = q.events ++ (m.talk limit fuel q.answers).2 := by
  induction fuel generalizing m q with
  | zero => exact ⟨0, m, q, .refl _ _, by simp [talk]⟩
  | succ fuel ih =>
      cases hm : m.step limit false with
      | halt => exact ⟨0, m, q, .refl _ _, by simp [talk_halt hm]⟩
      | next m₁ =>
          obtain ⟨n, m', q', hp, hq'⟩ := ih m₁ q hq
          exact ⟨n + 1, m', q', .step (Queue.move_next hq hm) hp, by rw [hq', talk_next hm]⟩
      | emit text m₁ =>
          obtain ⟨n, m', q', hp, hq'⟩ := ih m₁ { q with seen := .output text :: q.seen } hq
          refine ⟨n + 1, m', q', .step (Queue.move_emit hq hm) hp, ?_⟩
          rw [hq', talk_emit hm]
          simp [Queue.events]
      | ask name m₁ =>
          obtain ⟨n, m', q', hp, hq'⟩ := ih (m₁.answer false (.ok (q.answers.headD [])))
            { q with seen := .prompt (promptText name) :: q.seen, answers := q.answers.tail } hq
          refine ⟨n + 1, m', q', .step (Queue.move_ask hq hm) hp, ?_⟩
          rw [hq', talk_ask hm]
          simp [Queue.events]

/-- What is said in a run that ends is all that the host sees. -/
lemma talk_run {fuel : Nat} {m m' : Machine} {q q' : Queue}
    (hr : m.run (Queue.host {}) limit fuel q = some (m', q')) (hq : q.cancelled = false) :
    (m.talk limit fuel q.answers).1 = some m'
      ∧ q'.events = q.events ++ (m.talk limit fuel q.answers).2 := by
  induction fuel generalizing m q with
  | zero => exact absurd hr (by simp [run])
  | succ fuel ih =>
      cases hm : m.step limit false with
      | halt =>
          have hend : m.move (Queue.host {}) limit q = none :=
            move_eq_none_iff.mpr (step_eq_halt_iff.mp hm)
          rw [run_of_halt hend] at hr
          obtain ⟨rfl, rfl⟩ := Prod.mk.inj (Option.some.inj hr)
          simp [talk_halt hm]
      | next m₁ =>
          rw [run_of_move (Queue.move_next hq hm)] at hr
          rw [talk_next hm]
          exact ih hr hq
      | emit text m₁ =>
          rw [run_of_move (Queue.move_emit hq hm)] at hr
          obtain ⟨hend, hevents⟩ := ih hr hq
          rw [talk_emit hm]
          refine ⟨hend, hevents.trans ?_⟩
          simp [Queue.events]
      | ask name m₁ =>
          rw [run_of_move (Queue.move_ask hq hm)] at hr
          obtain ⟨hend, hevents⟩ := ih hr hq
          rw [talk_ask hm]
          refine ⟨hend, hevents.trans ?_⟩
          simp [Queue.events]

end Machine

/-! ### What is typed -/

/-- **A typed line**: a text, and whether a carriage return stands in front of the line feed. -/
def typedLine (line : Text × Bool) : Text := line.1 ++ if line.2 then [0x0d, 0x0a] else [0x0a]

/-- Some typed lines. -/
def typedText (lines : List (Text × Bool)) : Text := lines.flatMap typedLine

/-- A text that can be typed as a line: it holds no line feed and ends with no carriage return. -/
structure Typable (t : Text) : Prop where
  inside : 0x0a ∉ t
  last : t.getLast? ≠ some 0x0d

/-- The first line of a text ends at its first line break. -/
lemma firstLine_append {t : Text} (ht : 0x0a ∉ t) (rest : Text) :
    World.firstLine (t ++ 0x0a :: rest) = t ++ [0x0a] := by
  induction t with
  | nil => rfl
  | cons b t ih =>
      obtain ⟨hb, ht⟩ : 0x0a ≠ b ∧ 0x0a ∉ t := by simpa using ht
      rw [List.cons_append, World.firstLine, if_neg (by simpa using hb.symm), ih ht,
        List.cons_append]

/-- **The line at the front of what is typed** is the first typed line. -/
lemma firstLine_typedText {line : Text × Bool} (hline : Typable line.1) (lines : List (Text × Bool)) :
    World.firstLine (typedText (line :: lines)) = typedLine line := by
  obtain ⟨t, crlf⟩ := line
  rw [typedText, List.flatMap_cons, typedLine]
  cases crlf with
  | false =>
      rw [if_neg (by simp), List.append_assoc]
      exact firstLine_append hline.inside _
  | true =>
      have hinside : 0x0a ∉ t ++ [0x0d] := by simpa using hline.inside
      have hsplit : t ++ [0x0d, 0x0a] = (t ++ [0x0d]) ++ [0x0a] := by simp
      rw [if_pos rfl, hsplit, List.append_assoc]
      exact firstLine_append hinside _

/-- A line without its ending is the text that was typed. -/
lemma withoutEnding_typedLine {line : Text × Bool} (hline : Typable line.1) :
    Answers.withoutEnding (typedLine line) = line.1 := by
  obtain ⟨t, crlf⟩ := line
  have hlast : t.reverse.dropWhile (fun b => b == 0x0a || b == 0x0d) = t.reverse := by
    cases t using List.reverseRecOn with
    | nil => rfl
    | append_singleton t b =>
        have hfeed : b ≠ 0x0a := fun h => hline.inside (by simp [h])
        have hreturn : b ≠ 0x0d := fun h => hline.last (by simp [h])
        rw [List.reverse_concat, List.dropWhile_cons_of_neg (by simp [hfeed, hreturn])]
  cases crlf <;> simp [Answers.withoutEnding, typedLine, hlast]

/-- What is written for an event when answers are typed: printed texts as lines, and prompts. -/
def Event.written : Event → Text
  | output t => t ++ [0x0a]
  | prompt t => t ++ [0x20]

/-! ### Worlds that differ in their input -/

namespace World

variable {α β : Type}

/-- **Actions that only look at files.** -/
def Inspects (a : StateM World α) : Prop :=
  ∃ f : Disk → Text → α, ∀ w : World, w.perform a = (f w.disk w.directory, w)

lemma inspects_pure (x : α) : Inspects (pure x) := ⟨fun _ _ => x, fun _ => rfl⟩

/-- **One inspection after another** is an inspection. -/
lemma Inspects.bind {a : StateM World α} {f : α → StateM World β} (ha : Inspects a)
    (hf : ∀ x, Inspects (f x)) : Inspects (a >>= f) := by
  obtain ⟨g, hg⟩ := ha
  choose k hk using hf
  refine ⟨fun d dir => k (g d dir) d dir, fun w => ?_⟩
  rw [perform_bind, hg, hk]

lemma inspects_directory : Inspects Shell.directory := ⟨fun _ dir => dir, fun _ => rfl⟩

lemma inspects_isDirectory (path : Text) : Inspects (Shell.isDirectory path) :=
  ⟨fun d dir => d.isDirectory dir path, fun _ => rfl⟩

lemma inspects_read (path : Text) : Inspects (Shell.read path) :=
  ⟨fun d dir => d.read dir path, fun _ => rfl⟩

lemma inspects_absolutePath (path : Text) : Inspects (absolutePath path) :=
  inspects_directory.bind fun _ => inspects_pure _

/-- To scan a file only inspects. -/
lemma inspects_readTokens (path : Text) : Inspects (readTokens path) := by
  refine (inspects_absolutePath path).bind fun _ => (inspects_read _).bind fun r => ?_
  cases r with
  | error e => exact inspects_pure _
  | ok content =>
      dsimp only
      cases tokenize content <;> exact inspects_pure _

/-- So does to parse one. -/
lemma inspects_readProgram (path : Text) : Inspects (readProgram path) := by
  refine (inspects_readTokens path).bind fun r => ?_
  cases r with
  | error e => exact inspects_pure _
  | ok tokens =>
      dsimp only
      cases Program.parse tokens <;> exact inspects_pure _

/-- To look for the first of some files only inspects. -/
lemma inspects_firstFile? (paths : List Text) : Inspects (firstFile? paths) := by
  induction paths with
  | nil => exact inspects_pure _
  | cons path rest ih =>
      rw [firstFile?]
      refine (inspects_isDirectory path).bind fun r => ?_
      split
      · exact inspects_pure _
      · exact ih

/-- To load a manifest only inspects. -/
lemma inspects_loadManifest (path : Text) : Inspects (loadManifest path) := by
  rw [loadManifest]
  split_ifs
  · exact inspects_pure _
  · refine (inspects_absolutePath path).bind fun path => (inspects_read path).bind fun r => ?_
    cases r with
    | error e => exact inspects_pure _
    | ok content =>
        dsimp only
        cases Manifest.ofText path content <;> exact inspects_pure _

lemma inspects_currentManifest : Inspects currentManifest := by
  refine ((inspects_absolutePath _).bind fun _ => inspects_firstFile? _).bind fun r => ?_
  cases r with
  | none => exact inspects_pure _
  | some path => exact (inspects_loadManifest path).bind fun _ => inspects_pure _

/-- To tell whether an argument means a file only inspects. -/
lemma inspects_meansFile (argument : Text) : Inspects (meansFile argument) := by
  rw [meansFile]
  split_ifs
  · exact inspects_pure _
  · refine (inspects_isDirectory argument).bind fun r => ?_
    cases r <;> exact inspects_pure _

/-! ### Driving a machine -/

/-- A world in which some texts have been written to the console. -/
def say (w : World) (ts : List Text) : World := { w with printed := ts.reverse ++ w.printed }

/-- What is said in two turns can be said in one. -/
lemma say_say (w : World) (ts ts' : List Text) : (w.say ts).say ts' = w.say (ts ++ ts') := by
  simp [say]

/-- What is said is added to the output. -/
lemma output_say (w : World) (ts : List Text) : (w.say ts).output = w.output ++ ts.flatten := by
  simp [say, output]

lemma perform_printLine (w : World) (t : Text) :
    w.perform (printLine t) = ((), w.say [t ++ [0x0a]]) := rfl

/-- An answer off a list is given silently. -/
lemma perform_next_preset (w : World) (prompt : Text) (answers : List Text) :
    w.perform (Answers.next prompt (.preset answers))
      = ((.ok (answers.headD []), .preset answers.tail), w) := by
  cases answers <;> rfl

/-- **A command that answers from a list** writes what the machine prints. -/
lemma perform_drive_preset (limit fuel : Nat) (m : Machine) (answers : List Text) (w : World) :
    w.perform (m.drive limit fuel (.preset answers))
      = ((m.talk limit fuel answers).1,
          w.say ((Event.outputs (m.talk limit fuel answers).2).map (· ++ [0x0a]))) := by
  induction fuel generalizing m answers w with
  | zero => rfl
  | succ fuel ih =>
      rw [Machine.drive]
      cases hm : m.step limit false with
      | halt =>
          rw [Machine.talk_halt hm]
          rfl
      | next m₁ =>
          rw [Machine.talk_next hm]
          exact ih m₁ answers w
      | emit text m₁ =>
          dsimp only
          rw [perform_bind, perform_printLine, ih, Machine.talk_emit hm, say_say]
          rfl
      | ask name m₁ =>
          dsimp only
          rw [perform_bind, perform_next_preset]
          dsimp only
          rw [ih, Machine.talk_ask hm]
          rfl

/-- A world with typed lines as its input. -/
def typing (w : World) (lines : List (Text × Bool)) : World :=
  { w with input := typedText lines, inputFault := none }

/-- **The typed lines** are taken off the input one by one. -/
lemma takeLine_typing (w : World) {lines : List (Text × Bool)} (hlines : ∀ l ∈ lines, Typable l.1) :
    (w.typing lines).takeLine = (.ok (firstLine (typedText lines)), w.typing lines.tail) := by
  cases lines with
  | nil => rfl
  | cons l lines =>
      have hline := firstLine_typedText (hlines l List.mem_cons_self) lines
      have hrest : (typedText (l :: lines)).drop (typedLine l).length = typedText lines :=
        List.drop_left
      rw [takeLine, typing, hline]
      dsimp only
      rw [hrest]
      rfl

/-- A prompt for a typed answer is written, and the next line is the answer. At the end of the input the
answer is empty. -/
lemma perform_next_typed (w : World) (prompt : Text) {lines : List (Text × Bool)}
    (hlines : ∀ l ∈ lines, Typable l.1) :
    (w.typing lines).perform (Answers.next prompt .typed)
      = ((.ok ((lines.map Prod.fst).headD []), .typed),
          (w.say [prompt ++ [0x20]]).typing lines.tail) := by
  have htake := takeLine_typing (w.say [prompt ++ [0x20]]) hlines
  have hanswer : Answers.withoutEnding (firstLine (typedText lines))
      = (lines.map Prod.fst).headD [] := by
    cases lines with
    | nil => rfl
    | cons l lines =>
        have hl := hlines l List.mem_cons_self
        rw [firstLine_typedText hl, withoutEnding_typedLine hl]
        rfl
  have hread : ((w.typing lines).perform (Shell.print (prompt ++ [0x20]))).2.perform Shell.readLine
      = ((w.say [prompt ++ [0x20]]).typing lines).takeLine := rfl
  rw [Answers.next, perform_bind, perform_bind, hread, htake]
  dsimp only
  rw [hanswer]
  rfl

/-- **A command that reads the answers** writes the prompts as well. -/
lemma perform_drive_typed (limit fuel : Nat) (m : Machine) (w : World)
    {lines : List (Text × Bool)} (hlines : ∀ l ∈ lines, Typable l.1) :
    ∃ left, (w.typing lines).perform (m.drive limit fuel .typed)
      = ((m.talk limit fuel (lines.map Prod.fst)).1,
          (w.say ((m.talk limit fuel (lines.map Prod.fst)).2.map Event.written)).typing left) := by
  induction fuel generalizing m lines w with
  | zero => exact ⟨lines, rfl⟩
  | succ fuel ih =>
      rw [Machine.drive]
      cases hm : m.step limit false with
      | halt =>
          rw [Machine.talk_halt hm]
          exact ⟨lines, rfl⟩
      | next m₁ =>
          rw [Machine.talk_next hm]
          exact ih m₁ w hlines
      | emit text m₁ =>
          dsimp only
          obtain ⟨left, hleft⟩ := ih m₁ (w.say [text ++ [0x0a]]) hlines
          refine ⟨left, ?_⟩
          rw [perform_bind, perform_printLine, Machine.talk_emit hm]
          refine hleft.trans ?_
          rw [say_say]
          rfl
      | ask name m₁ =>
          dsimp only
          obtain ⟨left, hleft⟩ := ih (m₁.answer false (.ok ((lines.map Prod.fst).headD [])))
            (w.say [promptText name ++ [0x20]]) fun l hl => hlines l (List.mem_of_mem_tail hl)
          refine ⟨left, ?_⟩
          rw [perform_bind, perform_next_typed w _ hlines, Machine.talk_ask hm]
          refine hleft.trans ?_
          rw [say_say, List.map_tail]
          rfl

/-! ### Running a file -/

/-- A world in which some messages have been written. -/
def warn (w : World) (ts : List Text) : World := { w with complaints := ts.reverse ++ w.complaints }

/-- The exit code of a command that runs a program, and its messages, by what the machine came to. -/
def verdict (path : Text) : Option Machine → ExitCode × List Text
  | none => (1, [])
  | some m =>
    match m.failure? with
    | some f => (1, [Diagnostic.described path (.run f) ++ [0x0a]])
    | none => (0, [])

variable {w : World} {file : Text} {fuel : Nat} {o : RunOptions} {args : List Text}

/-- What is warned of is added to the messages. -/
lemma messages_warn (w : World) (ts : List Text) :
    (w.warn ts).messages = w.messages ++ ts.flatten := by
  simp [warn, messages]

/-- The empty argument means no file. -/
lemma ne_nil_of_meansFile (hfile : (w.perform (meansFile file)).1 = true) : file ≠ [] := by
  rintro rfl
  exact Bool.false_ne_true hfile

/-- A path that leads to a file means one. -/
lemma meansFile_of_read {content : Text} (hread : w.disk.read w.directory file = .ok content) :
    (w.perform (meansFile file)).1 = true := by
  have hdirectory : w.disk.isDirectory w.directory file = .ok false := by
    rw [Disk.read] at hread
    rw [Disk.isDirectory]
    split at hread
    next _ hentry => rw [hentry]
    next => exact absurd hread (by simp)
    next => exact absurd hread (by simp)
  rw [meansFile]
  split_ifs
  · rfl
  · rw [perform_bind, perform_isDirectory, hdirectory]
    rfl

/-- **An argument that means a file** is what is run, if need be with a warning, which does not depend
on the input. -/
lemma exists_chooseProgram (hfile : (w.perform (meansFile file)).1 = true) :
    ∃ ts, ∀ u : World, u.disk = w.disk → u.directory = w.directory →
      u.perform (chooseProgram file) = (.ok (.file file), u.warn ts) := by
  obtain ⟨means, hmeans⟩ := inspects_meansFile file
  obtain ⟨current, hcurrent⟩ := inspects_currentManifest
  have hempty : file.isEmpty = false := List.isEmpty_eq_false_iff.mpr (ne_nil_of_meansFile hfile)
  replace hfile : means w.disk w.directory = true := by rwa [hmeans] at hfile
  have hfound : ∀ u : World, u.disk = w.disk → u.directory = w.directory →
      u.perform (meansFile file) = (true, u) := by
    intro u hdisk hdir
    rw [hmeans, hdisk, hdir, hfile]
  cases hmanifest : current w.disk w.directory with
  | none =>
      refine ⟨[], fun u hdisk hdir => ?_⟩
      rw [chooseProgram, perform_bind, hcurrent, hdisk, hdir, hmanifest]
      dsimp only
      rw [if_neg (by simp [hempty])]
      rfl
  | some r =>
      cases r with
      | ok manifest =>
          refine ⟨[], fun u hdisk hdir => ?_⟩
          rw [chooseProgram, perform_bind, hcurrent, hdisk, hdir, hmanifest]
          dsimp only
          rw [chooseIn, if_neg (by simp [hempty]), perform_bind, hfound u hdisk hdir]
          rfl
      | error e =>
          refine ⟨[utf8 "warning: unable to load manifest (" ++ e.message
            ++ utf8 "); falling back to direct file execution" ++ [0x0a]], fun u hdisk hdir => ?_⟩
          rw [chooseProgram, perform_bind, hcurrent, hdisk, hdir, hmanifest]
          dsimp only
          rw [if_neg (by simp [hempty]), perform_bind, hfound u hdisk hdir]
          rfl

/-- Arguments that ask for a file make it run. -/
lemma perform_runCommand (hparse : RunOptions.parse args = (o, none)) {ts : List Text}
    (hchoose : w.perform (chooseProgram o.entry) = (.ok (.file o.entry), w.warn ts)) :
    w.perform (command fuel (utf8 "run" :: args))
      = (w.warn ts).perform (execute fuel o.entry o.maxDepth (o.answers [])) := by
  have hcommand : w.perform (command fuel (utf8 "run" :: args))
      = w.perform (runCommand fuel args) := rfl
  rw [hcommand, runCommand, hparse]
  dsimp only
  rw [perform_bind, hchoose]
  rfl

/-- A file without a program. -/
lemma perform_execute_error {d : Diagnostic} (hread : w.perform (readProgram file) = (.error d, w))
    (depth : Option Nat) (answers : Answers) :
    w.perform (execute fuel file depth answers) = (1, w.warn [d.described file ++ [0x0a]]) := by
  rw [execute, perform_bind, hread]
  rfl

/-- A program is run, and what it comes to decides on the exit code and the message. -/
lemma perform_execute {p : Program} (hread : w.perform (readProgram file) = (.ok p, w))
    (answers : Answers) {end? : Option Machine} {w' : World}
    (hdrive : w.perform ((Machine.ofProgram p).drive (Interpreter.new none).limit fuel answers)
      = (end?, w')) :
    w.perform (execute fuel file none answers)
      = ((verdict file end?).1, w'.warn (verdict file end?).2) := by
  have hlimit : (Interpreter.new ((none : Option Nat).map Int.ofNat)).limit
      = (Interpreter.new none).limit := rfl
  rw [execute, perform_bind, hread]
  dsimp only
  rw [perform_bind, hlimit, hdrive]
  cases end? with
  | none => rfl
  | some m =>
      dsimp only
      rw [verdict]
      cases m.failure? <;> rfl

end World

/-- What a run of a program in a fresh interpreter says to somebody with a list of answers is seen by the
host that answers from that list, and all of it if the run ends. -/
lemma Interpreter.shows_talk (fuel : Nat) (p : Program) (answers : List Text) :
    let r := (Machine.ofProgram p).talk (Interpreter.new none).limit fuel answers
    (Interpreter.new none).Shows answers (some p) r.2
      ∧ ∀ out, (Interpreter.new none).run (Queue.host {}) fuel (some p) (Queue.start {} answers)
          = some out → r.2 = out.host.events ∧ ∃ m, r.1 = some m ∧ m.failure? = out.failure := by
  intro r
  obtain ⟨n, m, q, hp, hq⟩ := @Machine.talk_path (Interpreter.new none).limit fuel (.ofProgram p)
    (Queue.start {} answers) rfl
  refine ⟨⟨n, m, q, hp, hq⟩, fun out hout => ?_⟩
  obtain ⟨⟨m', q'⟩, hr, rfl⟩ := Option.map_eq_some_iff.mp hout
  obtain ⟨hend, hevents⟩ := Machine.talk_run hr rfl
  exact ⟨hevents.symm, m', hend, rfl⟩

/-! ### Typing and presetting -/

open World RunOptions

section

variable {w : World} {file : Text} {lines : List (Text × Bool)} {items : List Item}
  {parts : List (List Text)}

/-- **A file is run twice**, with typed answers and with the same ones from a list. -/
lemma execute_alike (hlines : ∀ l ∈ lines, Typable l.1) (fuel : Nat) :
    let typed := (w.typing lines).perform (execute fuel file none .typed)
    let preset := w.perform (execute fuel file none (.preset (lines.map Prod.fst)))
    typed.1 = preset.1 ∧ typed.2.messages = preset.2.messages
      ∧ ∃ es : List Event, typed.2.output = w.output ++ es.flatMap Event.written
        ∧ preset.2.output = w.output ++ (Event.outputs es).flatMap (· ++ [0x0a])
        ∧ match (w.perform (readProgram file)).1 with
          | .error _ => es = [] ∧ preset.1 = 1
          | .ok p => (Interpreter.new none).Shows (lines.map Prod.fst) (some p) es
            ∧ ∀ out, (Interpreter.new none).run (Queue.host {}) fuel (some p)
                (Queue.start {} (lines.map Prod.fst)) = some out →
              es = out.host.events ∧ (preset.1 = 0 ↔ out.failure = none) := by
  obtain ⟨program, hprogram⟩ := inspects_readProgram file
  have htyping : (w.typing lines).perform (readProgram file)
      = ((w.perform (readProgram file)).1, w.typing lines) := by
    rw [hprogram, hprogram]
    rfl
  have hread : w.perform (readProgram file) = ((w.perform (readProgram file)).1, w) := by
    rw [hprogram]
  cases hp : (w.perform (readProgram file)).1 with
  | error d =>
      rw [hp] at htyping hread
      rw [perform_execute_error htyping, perform_execute_error hread]
      exact ⟨rfl, rfl, [], (List.append_nil _).symm, (List.append_nil _).symm, rfl, rfl⟩
  | ok p =>
      rw [hp] at htyping hread
      obtain ⟨left, hleft⟩ := perform_drive_typed (Interpreter.new none).limit fuel (.ofProgram p) w
        hlines
      have hright := perform_drive_preset (Interpreter.new none).limit fuel (.ofProgram p)
        (lines.map Prod.fst) w
      obtain ⟨hshows, hrun⟩ := Interpreter.shows_talk fuel p (lines.map Prod.fst)
      rw [perform_execute htyping _ hleft, perform_execute hread _ hright]
      refine ⟨rfl, (messages_warn _ _).trans (messages_warn _ _).symm, _, ?_, ?_, hshows, ?_⟩
      · rw [List.flatMap_def]
        exact output_say w _
      · rw [List.flatMap_def]
        exact output_say w _
      · intro out hout
        obtain ⟨hevents, m, hm, hfailure⟩ := hrun out hout
        refine ⟨hevents, ?_⟩
        dsimp only
        rw [hm, verdict, hfailure]
        cases out.failure <;> simp

/-- A file alone asks for typed answers. -/
lemma parse_file (hflag : ¬Item.IsFlag file) :
    RunOptions.parse [file] = (⟨file, [], none⟩, none) :=
  parse_append (.cons (.entry hflag) .nil) (List.pairwise_singleton _ file) []

/-- A file and some flags for answers. -/
lemma parse_inputs {values : List Text} (hparts : List.Forall₂ Item.Spells items parts)
    (hinputs : items.filterMap Item.input? = values)
    (hentries : items.filterMap Item.entry? = [file])
    (hdepths : items.filterMap Item.depth? = []) :
    RunOptions.parse parts.flatten = (⟨file, values, none⟩, none) := by
  have hone : OneEntry items := by
    rw [OneEntry, hentries]
    exact List.pairwise_singleton _ _
  have hparse := parse_append hparts hone []
  rw [List.append_nil, gathered, hentries, hinputs, hdepths] at hparse
  exact hparse

/-- **Typed answers come to the same as answers given with the arguments.**

An argument that means a file is run twice in one world: alone, with some texts as the lines of the
input, and with a flag for each of these texts, in whatever spelling and wherever the flags stand. The
exit codes and the messages are the same. What the first run writes to the console are the events of the
program, and what the second one writes are the lines that it prints among them. For a file with a
program these events are shown to somebody who has the texts as answers and then only empty ones, and
all of them if the run ends. -/
theorem typed_eq_preset (hflag : ¬Item.IsFlag file)
    (hfile : (w.perform (meansFile file)).1 = true) (hlines : ∀ l ∈ lines, Typable l.1)
    (hsome : lines ≠ []) (hparts : List.Forall₂ Item.Spells items parts)
    (hinputs : items.filterMap Item.input? = lines.map Prod.fst)
    (hentries : items.filterMap Item.entry? = [file])
    (hdepths : items.filterMap Item.depth? = []) (fuel : Nat) :
    let typed := (w.typing lines).perform (command fuel [utf8 "run", file])
    let preset := w.perform (command fuel (utf8 "run" :: parts.flatten))
    typed.1 = preset.1 ∧ typed.2.messages = preset.2.messages
      ∧ ∃ es : List Event, typed.2.output = w.output ++ es.flatMap Event.written
        ∧ preset.2.output = w.output ++ (Event.outputs es).flatMap (· ++ [0x0a])
        ∧ match (w.perform (readProgram file)).1 with
          | .error _ => es = [] ∧ preset.1 = 1
          | .ok p => (Interpreter.new none).Shows (lines.map Prod.fst) (some p) es
            ∧ ∀ out, (Interpreter.new none).run (Queue.host {}) fuel (some p)
                (Queue.start {} (lines.map Prod.fst)) = some out →
              es = out.host.events ∧ (preset.1 = 0 ↔ out.failure = none) := by
  intro typed preset
  obtain ⟨ts, hchoose⟩ := exists_chooseProgram hfile
  have hanswers : RunOptions.answers ⟨file, lines.map Prod.fst, none⟩ []
      = .preset (lines.map Prod.fst) := by
    rw [RunOptions.answers, hasInputs, if_pos (by simpa using hsome)]
  -- both command lines come to running the file, in a world with the same warnings
  have htyped : typed = ((w.warn ts).typing lines).perform (execute fuel file none .typed) :=
    perform_runCommand (parse_file hflag) (hchoose (w.typing lines) rfl rfl)
  have hpreset : preset
      = (w.warn ts).perform (execute fuel file none (.preset (lines.map Prod.fst))) := by
    rw [← hanswers]
    exact perform_runCommand (parse_inputs hparts hinputs hentries hdepths) (hchoose w rfl rfl)
  have hread : (w.perform (readProgram file)).1 = ((w.warn ts).perform (readProgram file)).1 := by
    obtain ⟨program, hprogram⟩ := inspects_readProgram file
    rw [hprogram, hprogram]
    rfl
  rw [htyped, hpreset, hread]
  exact execute_alike hlines fuel

end

/-- A program that asks twice and prints both answers. -/
def askSource : Text :=
  utf8 "nomoshkar dada porashona dada x; bolo dada x; porashona dada y; bolo dada y; jachchhi dada"

/-- Its tree. -/
def askProgram : Program :=
  ⟨some ⟨1, 1⟩, [.input (some ⟨1, 16⟩) (utf8 "x"),
    .print (some ⟨1, 34⟩) (.identifier (some ⟨1, 44⟩) (utf8 "x")),
    .input (some ⟨1, 47⟩) (utf8 "y"),
    .print (some ⟨1, 65⟩) (.identifier (some ⟨1, 75⟩) (utf8 "y"))]⟩

/-- A world with that program in a file without an ending, and a manifest that cannot be read. -/
def askWorld : World :=
  { disk.entries := [([utf8 "ask"], .file askSource), ([utf8 "dada.yml"], .file (utf8 "- x"))] }

/-- There is one answer for two prompts, and it is typed with a carriage return. -/
theorem typed_eq_preset_further :
    let typed := (askWorld.typing [(utf8 "a", true)]).perform (command 40 [utf8 "run", utf8 "ask"])
    let preset := askWorld.perform (command 40 [utf8 "run", utf8 "--input=a", utf8 "ask"])
    typed.1 = 0 ∧ preset.1 = 0 ∧ typed.2.messages = preset.2.messages ∧ preset.2.messages ≠ []
      ∧ typed.2.output = utf8 "Enter value for x: a\nEnter value for y: \n"
      ∧ preset.2.output = utf8 "a\n\n" := by
  intro typed preset
  have hread : askWorld.disk.read askWorld.directory (utf8 "ask") = .ok askSource := by decide +kernel
  have hflag : ¬Item.IsFlag (utf8 "ask") := fun h =>
    absurd (List.isPrefixOf_iff_prefix.mpr h) (by decide)
  have hlines : ∀ l ∈ [(utf8 "a", true)], Typable l.1 :=
    List.forall_mem_singleton.mpr ⟨by decide, by decide⟩
  have hparts : List.Forall₂ Item.Spells [.input (utf8 "a"), .entry (utf8 "ask")]
      [[utf8 "--input=a"], [utf8 "ask"]] :=
    .cons (.inputJoined (utf8 "a")) (.cons (.entry hflag) .nil)
  obtain ⟨hcode, hmessages, es, htyped, hpreset, hevents⟩ := typed_eq_preset hflag
    (meansFile_of_read hread) hlines (by simp) hparts rfl rfl rfl 40
  have hprogram : (askWorld.perform (readProgram (utf8 "ask"))).1 = .ok askProgram := by cbv
  rw [hprogram] at hevents
  obtain ⟨rfl, hfine⟩ := hevents.2 _ rfl
  have hzero : preset.1 = 0 := hfine.mpr rfl
  have hwarned : preset.2.messages ≠ [] := by decide +kernel
  exact ⟨hcode.trans hzero, hzero, hmessages, hwarned, htyped, hpreset⟩

end LessonLang
