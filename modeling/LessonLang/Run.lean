import LessonLang.Machine

/-!
Runs, the meeting of a machine and a host.

* A `Host` keeps a state of its own, takes what the program prints, answers its prompts and says
  whether it has cancelled the run. It may make up its mind about that at any moment; the program
  notices when it looks.
* `Machine.move` is one step of a machine together with what its host makes of it, and `Machine.run`
  moves until nothing is left to do. It takes the number of steps that it may spend and gives nothing
  back if they do not suffice.
* `Interpreter` holds what outlives a run: scopes and functions. Programs can be run on it and
  functions of the last program called.
* `Queue` is the host that answers prompts from a list and records what it sees. A `Plan` makes it
  cancel the run, or refuse to answer, at a chosen moment.
-/

namespace LessonLang

/-! ### Hosts and runs -/

/-- What surrounds a running program. -/
structure Host (σ : Type) where
  /-- takes a printed text -/
  emit : Text → σ → σ
  /-- answers a prompt -/
  ask : Text → σ → Machine.Answer × σ
  /-- the run is cancelled -/
  cancelled : σ → Bool
  /-- what happens on its own until the program looks whether it was cancelled -/
  elapse : σ → σ := id

variable {σ : Type}

namespace Machine

/-- The host at the moment of a step. -/
def hostAt (h : Host σ) (m : Machine) (s : σ) : σ := if m.looks then h.elapse s else s

/-- One move: the machine steps and the host reacts to it. There is none when the machine halts. -/
def move (h : Host σ) (limit : Nat) (m : Machine) (s : σ) : Option (Machine × σ) :=
  let s := m.hostAt h s
  match m.step limit (h.cancelled s) with
  | .halt => none
  | .next m => some (m, s)
  | .emit text m => some (m, h.emit text s)
  | .ask name m =>
    let (a, s) := h.ask (promptText name) s
    some (m.answer (h.cancelled s) a, s)

/-- Moves until the machine halts, if it does so within `fuel` steps. -/
def run (h : Host σ) (limit : Nat) : (fuel : Nat) → Machine → σ → Option (Machine × σ)
  | 0, _, _ => none
  | fuel + 1, m, s =>
    match m.move h limit s with
    | none => some (m, s)
    | some (m, s) => run h limit fuel m s

end Machine

/-! ### Interpreters -/

/-- What outlives a run, and the bound on the nesting of calls. -/
structure Interpreter where
  limit : Nat
  scopes : Scopes
  functions : Table Function

namespace Interpreter

/-- The nesting of calls that is allowed unless asked otherwise. -/
def defaultLimit : Nat := 2000

/-- A fresh interpreter. A bound below one is ignored. -/
def new (limit : Option Int := none) : Interpreter :=
  let bound := match limit with
    | some n => if 0 < n then n.toNat else defaultLimit
    | none => defaultLimit
  ⟨bound, .empty, []⟩

/-- The outcome of a run: how it failed if it did, the value it gave if any, and the interpreter and
the host after it. -/
structure Outcome (σ : Type) where
  failure : Option Failure
  value : Option Value
  interpreter : Interpreter
  host : σ

/-- Runs a machine and keeps its scopes and functions. -/
def finish (i : Interpreter) (h : Host σ) (fuel : Nat) (m : Machine) (s : σ) :
    Option (Outcome σ) :=
  (m.run h i.limit fuel s).map fun (m, s) =>
    ⟨m.failure?, m.result?, ⟨i.limit, m.scopes, m.functions⟩, s⟩

/-- Runs a program in fresh scopes. A missing program fails and leaves everything as it was. -/
def run (i : Interpreter) (h : Host σ) (fuel : Nat) (p : Option Program) (s : σ) :
    Option (Outcome σ) :=
  match p with
  | none => some ⟨some (.ofNode .noProgram none), none, i, s⟩
  | some p => i.finish h fuel (.ofProgram p) s

/-- A machine about to call a function of the program that ran last. -/
def entry (i : Interpreter) (name : Text) (args : List Value) : Machine :=
  ⟨.enter none name args, [], i.scopes, i.functions, 0⟩

/-- Calls a function of the program that ran last. -/
def call (i : Interpreter) (h : Host σ) (fuel : Nat) (name : Text) (args : List Value) (s : σ) :
    Option (Outcome σ) :=
  i.finish h fuel (i.entry name args) s

end Interpreter

/-! ### Answers from a list -/

/-- What a host sees of a run. -/
inductive Event where
  | output (text : Text)
  | prompt (text : Text)
  deriving DecidableEq, Repr

namespace Event

/-- The names of the kinds of events by number. -/
def kindNames : List String := ["output", "prompt"]

/-- The name of the kind with number `n`. -/
def kindName (n : Int) : Text :=
  let other := utf8 "EventKind(" ++ Text.ofInt n ++ [0x29]
  match n with
  | .ofNat k => ((kindNames[k]?).map utf8).getD other
  | _ => other

/-- The printed texts among events, in order. -/
def outputs (es : List Event) : List Text :=
  es.filterMap fun
    | output t => some t
    | prompt _ => none

/-- The prompts among events, in order. -/
def prompts (es : List Event) : List Text :=
  es.filterMap fun
    | prompt t => some t
    | output _ => none

end Event

/-- The moments at which a host interferes, counting outputs and prompts from one. -/
structure Plan where
  /-- cancel while taking this output; with zero, before the run -/
  cancelAtOutput : Option Nat := none
  /-- cancel at this prompt, before it is answered -/
  cancelAtPrompt : Option Nat := none
  /-- refuse to answer this prompt, with a message -/
  failAtPrompt : Option (Nat × Text) := none
  /-- cancel when the answer to this prompt is ready -/
  cancelAfterPrompt : Option Nat := none

/-- A host that answers from a list. When the list is used up, every further answer is empty. -/
structure Queue where
  answers : List Text
  /-- what was seen, the latest first -/
  seen : List Event := []
  cancelled : Bool := false

namespace Queue

/-- What was seen, in order. -/
def events (q : Queue) : List Event := q.seen.reverse

/-- A queue at the start of a run. -/
def start (plan : Plan) (answers : List Text) : Queue :=
  { answers, cancelled := plan.cancelAtOutput == some 0 }

/-- Takes a printed text. -/
def emit (plan : Plan) (text : Text) (q : Queue) : Queue :=
  let seen := .output text :: q.seen
  match plan.cancelAtOutput with
  | none => { q with seen }
  | some n => { q with seen, cancelled := q.cancelled || n == (Event.outputs seen).length }

/-- Takes the next answer off the list, unless the run was cancelled. -/
def take (q : Queue) : Machine.Answer × Queue :=
  if q.cancelled then (.error .canceled, q)
  else match q.answers with
    | [] => (.ok [], q)
    | a :: rest => (.ok a, { q with answers := rest })

/-- Answers a prompt. -/
def ask (plan : Plan) (prompt : Text) (q : Queue) : Machine.Answer × Queue :=
  let seen := .prompt prompt :: q.seen
  let n := (Event.prompts seen).length
  let q := { q with seen, cancelled := q.cancelled || plan.cancelAtPrompt == some n }
  match plan.failAtPrompt with
  | some (k, message) => if k == n then (.error (.host message), q) else go n q
  | none => go n q
where
  go (n : Nat) (q : Queue) : Machine.Answer × Queue :=
    let (a, q) := q.take
    (a, { q with cancelled := q.cancelled || plan.cancelAfterPrompt == some n })

/-- The host that follows a plan. -/
def host (plan : Plan) : Host Queue :=
  { emit := emit plan, ask := ask plan, cancelled := Queue.cancelled }

end Queue

end LessonLang
