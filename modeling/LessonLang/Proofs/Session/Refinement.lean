import LessonLang.Proofs.Machine.Discipline
import LessonLang.Proofs.Session.Trail

/-!
Sessions refine runs.

* `Notice.AnswersFrom`: a host that answers from a list and does not cancel.
* `Session.Mirrors` relates a session to a moment of the run with these answers: the events between
  program and host are those that the run has shown up to there, and the prompt being asked, if
  there is one, is the next thing that the run does. It is a trail on which no event is missing
  (`Session.mirrors_iff_trails`).
* `Session.refines_run`: with a host that answers the prompts from a list, at any pace, the events
  of a session are at every moment a beginning of those of the run, and in the end all of them.
-/

namespace LessonLang

/-! ### Hosts that answer from a list -/

namespace Notice

/-- **A host that answers from a list**: it never cancels the run, and what it answers to the `k`-th
prompt is the `k`-th text of the list, or the empty one behind its end. It may try to answer at any
other time, too. -/
structure AnswersFrom (answers : List Text) (ns : List Notice) : Prop where
  patient : .cancelled ∉ ns
  listed : ∀ k text, .accepted text ∈ during (k + 1) ns → text = answers.getD k []

lemma AnswersFrom.of_append {answers : List Text} {ns ms : List Notice}
    (h : AnswersFrom answers (ns ++ ms)) : AnswersFrom answers ns :=
  ⟨fun hmem => h.patient (List.mem_append_left _ hmem),
    fun k text hmem => h.listed k text ((during_append_left _ ns ms).subset hmem)⟩

end Notice

/-! ### The simulation -/

namespace Session

open Notice

/-- **A session mirrors a run** that has come to the machine `m` and the host `q`. What was received
and what is in the buffer is what the run has shown; while a prompt is asked, it is what the run
shows next, and its answer the one that the run will take. -/
def Mirrors (answers : List Text) (ns : List Notice) (s : Session) (m : Machine) (q : Queue) :
    Prop :=
  let es := receipts ns ++ s.buffer
  match s.phase with
  | .running => s.machine = m ∧ q.events = es ∧ q.answers = answers.drop (ns.count .asked)
  | .printing text =>
    m.step s.limit false = .emit text s.machine ∧ q.events = es
      ∧ q.answers = answers.drop (ns.count .asked)
  | .prompting name =>
    m.step s.limit false = .ask name s.machine ∧ q.events = es
      ∧ ∃ k, ns.count .asked = k + 1 ∧ q.answers = answers.drop k
  | .awaiting name =>
    m.step s.limit false = .ask name s.machine ∧ q.events ++ [.prompt (promptText name)] = es
      ∧ ∃ k, ns.count .asked = k + 1 ∧ q.answers = answers.drop k
  | .answered a | .resuming a =>
    ∃ name, m.step s.limit false = .ask name s.machine
      ∧ q.events ++ [.prompt (promptText name)] = es
      ∧ ∃ k, ns.count .asked = k + 1 ∧ q.answers = answers.drop k ∧ a = .ok (answers.getD k [])
  | .stopped f | .closed f | .ended f =>
    s.machine = m ∧ q.events = es ∧ m.Finished [] ∧ f = m.failure?

section simulation

variable {i : Interpreter} {p : Program} {answers : List Text} {ns ms : List Notice}
  {s s' : Session} {m : Machine} {q : Queue}

/-- The session has been started on the program `p` and mirrors its run. -/
structure Follows (i : Interpreter) (p : Program) (answers : List Text) (ns : List Notice)
    (s : Session) : Prop where
  limit : s.limit = i.limit
  cancelled : s.phase.isOver = false → s.cancelled = false
  mirrors : ∃ n m q,
    Machine.Path (Queue.host {}) i.limit n (.ofProgram p) (Queue.start {} answers) m q
      ∧ q.cancelled = false ∧ s.Mirrors answers ns m q

lemma Follows.start (i : Interpreter) (p : Program) (answers : List Text) :
    Follows i p answers [] (Session.start i (some p)) :=
  ⟨rfl, fun _ => rfl, 0, _, _, .refl _ _, rfl, rfl, rfl, rfl⟩

/-- To mirror a run is to be on its trail, with the events of the run themselves. -/
lemma mirrors_iff_trails :
    s.Mirrors answers ns m q ↔ s.Trails (fun es ts => ts = es) answers ns m q := by
  cases hphase : s.phase <;> simp only [Mirrors, Trails, hphase]

lemma Does.limit (hd : Does s s' ms) : s'.limit = s.limit := by
  cases hd <;> rfl

/-- A run that is not over is cancelled by its host only. -/
lemma Does.cancelled (hd : Does s s' ms) (hms : .cancelled ∉ ms) (hover : s'.phase.isOver = false) :
    s.phase.isOver = false ∧ s'.cancelled = s.cancelled := by
  cases hd with
  | cancel => exact absurd (List.mem_singleton_self _) hms
  | abandon hp => obtain ⟨name, hp⟩ | ⟨name, hp⟩ := hp <;> exact ⟨by rw [hp]; rfl, rfl⟩
  | halt | shut | finish => exact absurd hover (by simp [Phase.isOver])
  | accept | refuse | deliver | withdraw | receive => exact ⟨hover, rfl⟩
  | _ => simp_all [Phase.isOver]

/-- **Whatever happens** in a session, apart from a cancellation, it goes on mirroring the run. -/
lemma Follows.step (h : Follows i p answers ns s) (ho : Orderly ns s) (hd : Does s s' ms)
    (ha : AnswersFrom answers (ns ++ ms)) : Follows i p answers (ns ++ ms) s' := by
  obtain ⟨hlimit, hcancelled, n, m, q, hp, hq, hm⟩ := h
  have hms : .cancelled ∉ ms := fun hmem => ha.patient (List.mem_append_right ns hmem)
  have htrail := (mirrors_iff_trails.mp hm).step (fun es ts e h => by rw [h])
    (fun hover hc => absurd (hcancelled hover) (by simp [hc])) hq ho hd ha.listed
  obtain ⟨k, m', q', hp', hq', hm'⟩ | ⟨hover, hc, -⟩ := htrail
  · rw [hlimit] at hp'
    refine ⟨hd.limit.trans hlimit, fun hover => ?_, n + k, m', q', hp.trans hp', hq',
      mirrors_iff_trails.mpr hm'⟩
    obtain ⟨hover', hsame⟩ := hd.cancelled hms hover
    rw [hsame]
    exact hcancelled hover'
  · exact absurd (hcancelled hover) (by simp [hc])

lemma Follows.of_runs (h : Runs (Session.start i (some p)) ns s) (ha : AnswersFrom answers ns) :
    Follows i p answers ns s := by
  refine (h.invariant (P := fun ns s => Orderly ns s ∧ (AnswersFrom answers ns →
    Follows i p answers ns s)) ⟨.start i _, fun _ => .start i p answers⟩ ?_).2 ha
  rintro ns s₁ ms s₂ ⟨ho, hf⟩ hd
  exact ⟨ho.step hd, fun ha => (hf ha.of_append).step ho hd ha⟩

/-- The events of a session are those that the run has shown at some moment. -/
lemma Follows.shows (h : Follows i p answers ns s) :
    i.Shows answers (some p) (receipts ns ++ s.buffer) := by
  obtain ⟨hlimit, -, n, m, q, hp, hq, hm⟩ := h
  -- a prompt in the buffer is shown by the move that takes its answer
  have hasked : ∀ name, m.step s.limit false = .ask name s.machine →
      q.events ++ [.prompt (promptText name)] = receipts ns ++ s.buffer →
      i.Shows answers (some p) (receipts ns ++ s.buffer) := by
    intro name hstep hevents
    rw [hlimit] at hstep
    refine ⟨_, _, _, hp.trans (.step (Queue.move_ask hq hstep) (.refl _ _)), ?_⟩
    rw [← hevents]
    exact List.reverse_cons
  rw [Mirrors] at hm
  split at hm
  · exact ⟨n, m, q, hp, hm.2.1⟩
  · exact ⟨n, m, q, hp, hm.2.1⟩
  · exact ⟨n, m, q, hp, hm.2.1⟩
  · exact hasked _ hm.1 hm.2.1
  · obtain ⟨name, hstep, hevents, -⟩ := hm
    exact hasked name hstep hevents
  · obtain ⟨name, hstep, hevents, -⟩ := hm
    exact hasked name hstep hevents
  all_goals exact ⟨n, m, q, hp, hm.2.1⟩

/-- When no more events are written, the run has ended, too. -/
lemma Follows.run_eq (h : Follows i p answers ns s) {f : Option Failure}
    (hphase : s.phase = .closed f ∨ s.phase = .ended f) :
    ∃ fuel out, i.run (Queue.host {}) fuel (some p) (Queue.start {} answers) = some out
      ∧ out.host.events = receipts ns ++ s.buffer ∧ out.failure = f
      ∧ out.interpreter = ⟨i.limit, s.machine.scopes, s.machine.functions⟩ := by
  obtain ⟨-, -, n, m, q, hp, -, hm⟩ := h
  have hm : s.machine = m ∧ q.events = receipts ns ++ s.buffer ∧ m.Finished []
      ∧ f = m.failure? := by
    obtain hphase | hphase := hphase <;> rwa [Mirrors, hphase] at hm
  obtain ⟨rfl, hevents, hend, rfl⟩ := hm
  refine ⟨n + 1, ⟨s.machine.failure?, s.machine.result?,
    ⟨i.limit, s.machine.scopes, s.machine.functions⟩, q⟩, ?_, hevents, rfl, rfl⟩
  rw [Interpreter.run, Interpreter.finish, hp.run_eq,
    Machine.run_of_halt (Machine.move_eq_none_iff.mpr hend)]
  rfl

/-- A session without a program: it has nothing to write and only ends. -/
structure Vacant (i : Interpreter) (ns : List Notice) (s : Session) : Prop where
  events : receipts ns ++ s.buffer = []
  machine : s.machine = ⟨.done, [], i.scopes, i.functions, 0⟩
  phase : ∀ f, f = some (Failure.ofNode .noProgram none) →
    s.phase = .stopped f ∨ s.phase = .closed f ∨ s.phase = .ended f

lemma Vacant.step (h : Vacant i ns s) (hd : Does s s' ms) : Vacant i (ns ++ ms) s' := by
  obtain ⟨hevents, hmachine, hphase⟩ := h
  have hphase := hphase _ rfl
  cases hd with
  | shut | finish =>
      refine ⟨by rwa [List.append_nil], hmachine, ?_⟩
      rintro f rfl
      simp_all
  | accept | refuse | deliver | withdraw | cancel =>
      refine ⟨?_, hmachine, ?_⟩
      · rw [← hevents]
        simp [receipts]
      · rintro f rfl
        exact hphase
  | receive hbuffer =>
      rw [hbuffer] at hevents
      exact absurd hevents (by simp)
  | abandon hp => obtain ⟨name, hp⟩ | ⟨name, hp⟩ := hp <;> simp_all
  | _ => simp_all

lemma Vacant.of_runs (h : Runs (Session.start i none) ns s) : Vacant i ns s := by
  refine h.invariant ⟨rfl, rfl, ?_⟩ fun _ _ _ _ hv hd => hv.step hd
  rintro f rfl
  exact Or.inl rfl

end simulation

/-- **No interleaving gets stuck**: unless the session has ended, the program can work, an accepted
answer can be put in place, or it is for the host to receive an event or to answer a prompt. -/
lemma Orderly.progress {ns : List Notice} {s : Session} (ho : Orderly ns s) :
    s.outcome?.isSome = true ∨ (s.act .work).isSome = true ∨ (s.act (.deliver 0)).isSome = true
      ∨ s.buffer ≠ [] ∨ s.waiting = true := by
  have hroom : ∀ e next, (s.write e next).isSome = true ∨ s.buffer ≠ [] := by
    intro e next
    rw [write]
    split_ifs with hlen
    · exact Or.inl rfl
    · refine Or.inr fun hnil => hlen ?_
      rw [hnil]
      decide
  cases hp : s.phase with
  | ended f => exact Or.inl (by rw [outcome?, hp]; rfl)
  | printing text =>
      refine Or.inr ?_
      obtain hw | hb := hroom (.output text) .running
      · exact Or.inl (by simpa [act, work, hp] using hw)
      · exact Or.inr (Or.inr (Or.inl hb))
  | prompting name =>
      refine Or.inr ?_
      obtain hw | hb := hroom (.prompt (promptText name)) (.awaiting name)
      · exact Or.inl (by simpa [act, work, hp] using hw)
      · exact Or.inr (Or.inr (Or.inl hb))
  | awaiting name =>
      refine Or.inr ?_
      cases hslot : s.slot with
      | some text => exact Or.inl (by simp [act, work, hp, hslot])
      | none =>
          obtain hw | hpending := ho.answerable (by rw [hp]; rfl)
          · exact Or.inr (Or.inr (Or.inr hw))
          · refine Or.inr (Or.inl ?_)
            rw [pending, hslot, Option.toList_none, List.append_nil] at hpending
            obtain ⟨text, rest, hoffers⟩ := List.exists_cons_of_ne_nil hpending
            simp [act, Session.deliver, hoffers, hslot]
  | running =>
      refine Or.inr (Or.inl ?_)
      rw [act, work, hp]
      dsimp only
      split <;> rfl
  | _ => exact Or.inr (Or.inl (by simp [act, work, hp]))

/-- **A session refines the run.** A host answers the prompts of a program from a list, receives at
any pace, may try to answer at any other time, and does not cancel. At every moment what it has
received and what is in the buffer is what the run with these answers has shown at some moment, and
a beginning of all that the run shows if it ends. When no more events are written and the host has
received them all, the run has ended as well: it has shown the same events, came to the same failure
and left the same scopes and functions. Until then there is always something that the program or the
host can do. -/
theorem refines_run (i : Interpreter) (p : Option Program) (answers : List Text)
    {ns : List Notice} {s : Session} (h : Runs (start i p) ns s) (ha : AnswersFrom answers ns) :
    i.Shows answers p (receipts ns ++ s.buffer)
    ∧ (∀ fuel out, i.run (Queue.host {}) fuel p (Queue.start {} answers) = some out →
      receipts ns ++ s.buffer <+: out.host.events)
    ∧ (∀ f, s.phase = .closed f ∨ s.phase = .ended f → s.buffer = [] →
      ∃ fuel out, i.run (Queue.host {}) fuel p (Queue.start {} answers) = some out
        ∧ out.host.events = receipts ns ∧ out.failure = f
        ∧ out.interpreter = ⟨i.limit, s.machine.scopes, s.machine.functions⟩)
    ∧ (s.outcome?.isSome = true ∨ (s.act .work).isSome = true ∨ (s.act (.deliver 0)).isSome = true
      ∨ s.buffer ≠ [] ∨ s.waiting = true) := by
  refine ⟨?_, ?_, ?_, (Orderly.of_runs h).progress⟩
  · cases p with
    | none => exact (Vacant.of_runs h).events
    | some p => exact (Follows.of_runs h ha).shows
  · intro fuel out hout
    cases p with
    | none =>
        rw [(Vacant.of_runs h).events]
        exact List.nil_prefix
    | some p =>
        obtain ⟨n, m, q, hp, hevents⟩ := (Follows.of_runs h ha).shows
        obtain ⟨m', q', hr, rfl⟩ := Interpreter.finish_eq_some hout
        rw [← hevents]
        exact Queue.events_prefix_of_run hp hr
  · intro f hphase hbuffer
    cases p with
    | none =>
        have hv := Vacant.of_runs h
        have hevents := hv.events
        rw [hbuffer, List.append_nil] at hevents
        refine ⟨0, _, rfl, hevents.symm, ?_, ?_⟩
        · have := hv.phase _ rfl
          obtain hphase | hphase := hphase <;> simp_all
        · rw [hv.machine]
    | some p =>
        have := (Follows.of_runs h ha).run_eq hphase
        rwa [hbuffer, List.append_nil] at this

/-- A program that prints, asks and prints the answer. -/
def greeting : Program :=
  ⟨none, [.print none (.string none [0x73]), .input none [0x6e],
    .print none (.identifier none [0x6e])]⟩

/-- The host answers before it has seen the prompt, tries to answer twice more, and receives only in
the end. -/
def hasty : List Act :=
  [.provide [0x78]] ++ List.replicate 8 .work
    ++ [.provide [0x52], .provide [0x79], .work, .deliver 0]
    ++ List.replicate 14 .work ++ List.replicate 3 .receive

theorem refines_run_greeting :
    ∃ ns s, Runs (start (.new none) (some greeting)) ns s ∧ Notice.AnswersFrom [[0x52]] ns
      ∧ s.phase = .ended none ∧ s.buffer = []
      ∧ ∃ fuel out, (Interpreter.new none).run (Queue.host {}) fuel (some greeting)
          (Queue.start {} [[0x52]]) = some out
        ∧ out.host.events = Notice.receipts ns ∧ out.failure = none
        ∧ out.interpreter.scopes = s.machine.scopes := by
  have hf : ∃ s ns, (start (.new none) (some greeting)).follow hasty = some (s, ns)
      ∧ ns = [.refused [0x78], .asked, .accepted [0x52], .refused [0x79], .delivered,
        .answered [0x52], .received (.output [0x73]), .received (.prompt (promptText [0x6e])),
        .received (.output [0x52])]
      ∧ s.phase = .ended none ∧ s.buffer = [] := ⟨_, _, rfl, rfl, rfl, rfl⟩
  obtain ⟨s, ns, hf, hns, hphase, hbuffer⟩ := hf
  have hruns := Runs.refl.follow hf
  have hanswers : Notice.AnswersFrom [[0x52]] ns := by
    subst hns
    refine ⟨by simp, ?_⟩
    intro k text hmem
    cases k with
    | zero => simpa [Notice.during] using hmem
    | succ k => simp [Notice.during] at hmem
  obtain ⟨-, -, hend, -⟩ := refines_run _ _ [[0x52]] hruns hanswers
  obtain ⟨fuel, out, hrun, hevents, hfailure, hinterpreter⟩ := hend none (Or.inr hphase) hbuffer
  exact ⟨ns, s, hruns, hanswers, hphase, hbuffer, fuel, out, hrun, hevents, hfailure,
    by rw [hinterpreter]⟩

end Session

end LessonLang
