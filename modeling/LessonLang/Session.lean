import LessonLang.Run

/-!
Sessions: programs that run at the pace of their host.

The program writes its outputs and prompts into a buffer of sixteen events, from which the host
receives them in order. A full buffer stops the program until the host has received something, and a
prompt stops it until the host has provided an answer. Program and host are independent of each
other: what they do is cut into acts, each of which happens at one moment, and the acts of the two
may follow each other in any order.

* `Session.work` is one piece of work of the program, and `Session.quit` ends one of its waits
  because the run was cancelled.
* Providing an answer takes two acts: `Session.accept` closes the prompt, and `Session.deliver` puts
  the answer where the program looks for it. `Session.withdraw` gives up on it when the session has
  ended in between.
* `Session.receive` and `Session.cancel` are what else the host can do.
* `Session.act` collects all acts, with what others can notice of them.
* `Session.tick`, `Session.advance` and `Session.provide` string acts together for a host that takes
  turns with the program.

A prompt takes one answer: the first one provided while it is open. After a cancellation the events in
the buffer can still be received; an open prompt then fails.
-/

namespace LessonLang

/-- What the program of a session is doing. -/
inductive Phase where
  /-- working -/
  | running
  /-- about to write an output into the buffer -/
  | printing (text : Text)
  /-- about to write a prompt into the buffer -/
  | prompting (name : Text)
  /-- waiting for an answer -/
  | awaiting (name : Text)
  /-- about to close the prompt, with what it came to -/
  | answered (a : Machine.Answer)
  /-- about to go on behind the closed prompt -/
  | resuming (a : Machine.Answer)
  /-- done, and about to close the buffer -/
  | stopped (failure : Option Failure)
  /-- writes no more events -/
  | closed (failure : Option Failure)
  /-- ended -/
  | ended (failure : Option Failure)

/-- A program and what lies between it and its host. -/
structure Session where
  limit : Nat
  machine : Machine
  phase : Phase
  /-- events written and not yet received, the oldest first -/
  buffer : List Event := []
  /-- a prompt is open -/
  waiting : Bool := false
  /-- answers that closed a prompt and are on their way to the program -/
  offers : List Text := []
  /-- an answer that the program has not picked up yet -/
  slot : Option Text := none
  cancelled : Bool := false

/-- What can be noticed of a session. -/
inductive Notice where
  /-- the program opens a prompt -/
  | asked
  /-- the program takes an answer -/
  | answered (text : Text)
  /-- an answer of the host closes the open prompt -/
  | accepted (text : Text)
  /-- an answer of the host finds no open prompt -/
  | refused (text : Text)
  /-- an accepted answer is in place, and the host is told so -/
  | delivered
  /-- an accepted answer came too late, and the host is told so -/
  | withdrawn
  /-- the host receives an event -/
  | received (e : Event)
  /-- the host cancels the run -/
  | cancelled
  deriving DecidableEq, Repr

namespace Session

/-- The number of events that the buffer can hold. -/
def capacity : Nat := 16

/-- Starts a program. A missing program fails at once. -/
def start (i : Interpreter) : Option Program → Session
  | some p => { limit := i.limit, machine := .ofProgram p, phase := .running }
  | none =>
    { limit := i.limit, machine := ⟨.done, [], i.scopes, i.functions, 0⟩,
      phase := .stopped (some (.ofNode .noProgram none)) }

/-! ### The program -/

/-- Writes an event into the buffer, if there is room. -/
def write (s : Session) (e : Event) (next : Phase) : Option Session :=
  if s.buffer.length < capacity then some { s with buffer := s.buffer ++ [e], phase := next }
  else none

/-- One piece of work of the program, or nothing if it has to wait. -/
def work (s : Session) : Option (Session × List Notice) :=
  match s.phase with
  | .running =>
    match s.machine.step s.limit s.cancelled with
    | .halt => some ({ s with phase := .stopped s.machine.failure?, waiting := false }, [])
    | .next m => some ({ s with machine := m }, [])
    | .emit text m => some ({ s with machine := m, phase := .printing text }, [])
    | .ask name m =>
      some ({ s with machine := m, phase := .prompting name, waiting := true }, [.asked])
  | .printing text => (s.write (.output text) .running).map (·, [])
  | .prompting name => (s.write (.prompt (promptText name)) (.awaiting name)).map (·, [])
  | .awaiting _ =>
    s.slot.map fun text => ({ s with slot := none, phase := .answered (.ok text) }, [.answered text])
  | .answered a => some ({ s with phase := .resuming a, waiting := false }, [])
  | .resuming a =>
    some ({ s with machine := s.machine.answer s.cancelled a, phase := .running }, [])
  | .stopped f => some ({ s with phase := .closed f, cancelled := true }, [])
  | .closed f => some ({ s with phase := .ended f }, [])
  | .ended _ => none

/-- Ends a wait of the program, if the run was cancelled: an output is dropped, a prompt fails. -/
def quit (s : Session) : Option Session :=
  if s.cancelled then
    match s.phase with
    | .printing _ => some { s with phase := .running }
    | .prompting _ | .awaiting _ => some { s with phase := .answered (.error .canceled) }
    | _ => none
  else none

/-! ### The host -/

/-- Closes the open prompt with an answer. Without an open prompt the answer is refused. -/
def accept (s : Session) (text : Text) : Option Session :=
  if s.waiting then some { s with waiting := false, offers := text :: s.offers } else none

/-- Puts the accepted answer with number `n` where the program looks for it, if there is room. -/
def deliver (s : Session) (n : Nat) : Option Session :=
  match s.offers[n]?, s.slot with
  | some text, none => some { s with offers := s.offers.eraseIdx n, slot := some text }
  | _, _ => none

/-- Gives up on the accepted answer with number `n`, if the session has ended. -/
def withdraw (s : Session) (n : Nat) : Option Session :=
  match s.phase with
  | .ended _ => if n < s.offers.length then some { s with offers := s.offers.eraseIdx n } else none
  | _ => none

/-- What the host finds when it wants an event. -/
inductive Received where
  | event (e : Event)
  | closed
  | nothing

/-- Receives the oldest event in the buffer. -/
def receive (s : Session) : Received × Session :=
  match s.buffer with
  | e :: rest => (.event e, { s with buffer := rest })
  | [] =>
    match s.phase with
    | .closed _ | .ended _ => (.closed, s)
    | _ => (.nothing, s)

/-- Cancels the run. -/
def cancel (s : Session) : Session := { s with cancelled := true }

/-- The failure that the run ended with, once it has ended. -/
def outcome? (s : Session) : Option (Option Failure) :=
  match s.phase with
  | .ended f => some f
  | _ => none

/-! ### Acts in any order -/

/-- What the program or its host does next. -/
inductive Act where
  | work
  | quit
  | provide (text : Text)
  | deliver (n : Nat)
  | withdraw (n : Nat)
  | receive
  | cancel

/-- Carries out an act, if it is possible, and says what is noticed of it. -/
def act (s : Session) : Act → Option (Session × List Notice)
  | .work => s.work
  | .quit => s.quit.map (·, [])
  | .provide text =>
    match s.accept text with
    | some s => some (s, [.accepted text])
    | none => some (s, [.refused text])
  | .deliver n => (s.deliver n).map (·, [.delivered])
  | .withdraw n => (s.withdraw n).map (·, [.withdrawn])
  | .receive =>
    match s.receive with
    | (.event e, s) => some (s, [.received e])
    | _ => none
  | .cancel => some (s.cancel, [.cancelled])

/-! ### Taking turns -/

/-- The next act of the program: it works as long as it can, and ends a wait of a cancelled run only
if it cannot go on otherwise. -/
def tick (s : Session) : Option Session :=
  (s.act .work).map Prod.fst <|> (s.act .quit).map Prod.fst

/-- Lets the program work until it has to wait, for at most `fuel` pieces of work. -/
def advance : (fuel : Nat) → Session → Session
  | 0, s => s
  | fuel + 1, s =>
    match s.tick with
    | some s => advance fuel s
    | none => s

/-- Provides an answer to the open prompt, and says whether there was one. -/
def provide (s : Session) (text : Text) : Bool × Session :=
  match s.accept text with
  | some s => (true, (s.deliver 0).getD s)
  | none => (false, s)

/-- The message for an answer that nobody asked for. -/
def noPromptMessage : Text := utf8 "no pending prompt"

end Session

end LessonLang
