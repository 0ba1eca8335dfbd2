import LessonLang.Proofs.Machine.Path
import LessonLang.Proofs.Table

/-!
Machines that ask, and the host that answers them from a list.

* A machine that asks waits for the answer and does nothing else (`Machine.eq_of_ask`), and one that
  fails does nothing but fail (`Machine.step_of_failure`).
* `Queue.move_next`, `Queue.move_emit` and `Queue.move_ask`: how a host that answers from a list and
  never interferes moves along with a machine. It only ever adds to what it has seen
  (`Queue.events_prefix`).
* `Interpreter.Shows`: the events that a run shows to such a host.
-/

namespace LessonLang

/-! ### Machines that ask and machines that fail -/

namespace Machine

variable {limit : Nat}

lemma leave_ne_ask (m m' : Machine) (c : Control) (k : List Frame) (name : Text) :
    m.leave c k ≠ .ask name m' := by
  rw [leave.eq_def]
  split
  · simp
  · split <;> simp [resume]

/-- **A machine that asks** waits for the answer and is what it was otherwise. -/
lemma eq_of_ask {m m' : Machine} {c : Bool} {name : Text} (h : m.step limit c = .ask name m') :
    m' = { m with control := .await name } := by
  obtain ⟨control, frames, scopes, functions, calls⟩ := m
  cases control with
  | exec st =>
      change stepExec _ frames st = _ at h
      rw [stepExec.eq_def] at h
      split at h
      case h_4 =>
        obtain ⟨rfl, rfl⟩ := Step.ask.inj h
        rfl
      all_goals exact absurd h (by simp [resume, fail])
  | await name =>
      obtain ⟨rfl, rfl⟩ := Step.ask.inj h
      rfl
  | eval e =>
      change stepEval _ frames e = _ at h
      rw [stepEval.eq_def] at h
      repeat' split at h
      all_goals exact absurd h (by simp [resume, fail])
  | enter span name args =>
      change stepEnter _ limit c frames span name args = _ at h
      rw [stepEnter] at h
      repeat' split at h
      all_goals exact absurd h (by simp [resume, fail])
  | value v =>
      change stepValue _ v frames = _ at h
      rw [stepValue.eq_def] at h
      repeat' split at h
      all_goals exact absurd h (by simp [resume, fail])
  | done =>
      change stepDone _ frames = _ at h
      rw [stepDone.eq_def] at h
      repeat' split at h
      all_goals exact absurd h (by simp [resume, leave_ne_ask])
  | returned v =>
      change stepReturned _ v frames = _ at h
      rw [stepReturned.eq_def] at h
      split at h
      all_goals exact absurd h (by simp [resume, leave_ne_ask])
  | failed f =>
      change stepFailed _ f frames = _ at h
      rw [stepFailed.eq_def] at h
      split at h
      all_goals exact absurd h (by simp [resume, leave_ne_ask])
  | block body => cases body <;> exact absurd h (by simp [step, resume])
  | assign a => cases a <;> exact absurd h (by simp [step, resume, fail])
  | branches bs =>
      rw [step.eq_def] at h
      dsimp only at h
      split at h <;> simp_all [resume]
  | round l => cases c <;> exact absurd h (by simp [step, resume])

lemma control_of_ask {m m' : Machine} {c : Bool} {name : Text}
    (h : m.step limit c = .ask name m') : m'.control = .await name := by
  rw [eq_of_ask h]

/-- **A failing machine** carries its failure out, closes scopes on the way and does nothing
else. -/
lemma step_of_failure {m : Machine} {c : Bool} {f : Failure} (hf : m.failure? = some f) :
    m.step limit c = .halt
      ∨ ∃ m', m.step limit c = .next m' ∧ m'.failure? = some f
          ∧ m'.scopes.tables <:+ m.scopes.tables := by
  obtain ⟨control, frames, scopes, functions, calls⟩ := m
  cases control with
  | failed g =>
      obtain rfl : g = f := Option.some.inj hf
      cases frames with
      | nil => exact Or.inl rfl
      | cons frame k =>
          refine Or.inr ?_
          cases frame with
          | call =>
              change ∃ m', leave _ (.failed g) k = _ ∧ _
              obtain ⟨inner, outer⟩ := scopes
              cases outer with
              | nil => exact ⟨_, rfl, rfl, List.suffix_rfl⟩
              | cons t rest => exact ⟨_, rfl, rfl, List.suffix_cons inner (t :: rest)⟩
          | _ => exact ⟨_, rfl, rfl, List.suffix_rfl⟩
  | _ => exact absurd hf (by simp [failure?])

/-- A prompt without an answer fails. -/
lemma failure?_answer_error {m : Machine} {name : Text} (hm : m.control = .await name) (c : Bool)
    (fault : InputFault) : (m.answer c (.error fault)).failure? = some (.input name fault) := by
  rw [answer, hm]
  rfl

end Machine

/-! ### Runs with answers from a list -/

namespace Queue

open Machine

variable {limit : Nat} {m m' : Machine} {q : Queue}

lemma move_next (hq : q.cancelled = false) (hm : m.step limit false = .next m') :
    m.move (host {}) limit q = some (m', q) := by
  have hat : m.hostAt (host {}) q = q := by rw [hostAt]; exact ite_self q
  rw [move, hat, show (host {}).cancelled q = false from hq, hm]

lemma move_emit (hq : q.cancelled = false) {text : Text} (hm : m.step limit false = .emit text m') :
    m.move (host {}) limit q = some (m', { q with seen := .output text :: q.seen }) := by
  have hat : m.hostAt (host {}) q = q := by rw [hostAt]; exact ite_self q
  rw [move, hat, show (host {}).cancelled q = false from hq, hm]
  rfl

/-- A prompt takes the next answer off the list. -/
lemma move_ask (hq : q.cancelled = false) {name : Text} (hm : m.step limit false = .ask name m') :
    m.move (host {}) limit q = some (m'.answer false (.ok (q.answers.headD [])),
      { q with seen := .prompt (promptText name) :: q.seen, answers := q.answers.tail }) := by
  obtain ⟨answers, seen, cancelled⟩ := q
  obtain rfl : cancelled = false := hq
  have hat : m.hostAt (host {}) ⟨answers, seen, false⟩ = ⟨answers, seen, false⟩ := by
    rw [hostAt]; exact ite_self _
  rw [move, hat, show (host {}).cancelled ⟨answers, seen, false⟩ = false from rfl, hm]
  cases answers <;> rfl

lemma seen_emit (plan : Plan) (text : Text) (q : Queue) :
    (emit plan text q).seen = .output text :: q.seen := by
  rw [emit]
  split <;> rfl

lemma seen_take (q : Queue) : q.take.2.seen = q.seen := by
  rw [take]
  split_ifs
  · rfl
  · split <;> rfl

lemma seen_ask (plan : Plan) (text : Text) (q : Queue) :
    (ask plan text q).2.seen = .prompt text :: q.seen := by
  rw [ask]
  split
  · split_ifs
    · rfl
    · exact seen_take _
  · exact seen_take _

/-- A move adds to what the host has seen. -/
lemma events_prefix_of_move {plan : Plan} {q' : Queue}
    (hm : m.move (host plan) limit q = some (m', q')) : q.events <+: q'.events := by
  have hat : m.hostAt (host plan) q = q := by rw [hostAt]; exact ite_self q
  have hseen : q.seen <:+ q'.seen := by
    rw [move, hat] at hm
    split at hm
    next => exact absurd hm (by simp)
    next =>
      obtain ⟨-, rfl⟩ := Prod.mk.inj (Option.some.inj hm)
      exact List.suffix_rfl
    next text _ _ =>
      obtain ⟨-, rfl⟩ := Prod.mk.inj (Option.some.inj hm)
      change q.seen <:+ (emit plan text q).seen
      rw [seen_emit]
      exact List.suffix_cons _ _
    next name _ _ =>
      obtain ⟨-, rfl⟩ := Prod.mk.inj (Option.some.inj hm)
      change q.seen <:+ (ask plan (promptText name) q).2.seen
      rw [seen_ask]
      exact List.suffix_cons _ _
  exact List.reverse_prefix.mpr hseen

/-- **Along a run the host only sees more.** -/
lemma events_prefix {plan : Plan} {n : Nat} {q' : Queue}
    (hp : Path (host plan) limit n m q m' q') : q.events <+: q'.events := by
  induction hp with
  | refl => exact List.prefix_rfl
  | step hm _ ih => exact (events_prefix_of_move hm).trans ih

/-- What the host has seen at some moment of a run is a beginning of what it sees in the end. -/
lemma events_prefix_of_run {plan : Plan} {n fuel : Nat} {m₁ : Machine} {q₁ q' : Queue}
    (hp : Path (host plan) limit n m q m₁ q₁)
    (hr : m.run (host plan) limit fuel q = some (m', q')) : q₁.events <+: q'.events := by
  obtain ⟨n', hrest⟩ := hp.rest_of_run hr
  exact events_prefix hrest

end Queue

/-- The events that a run has shown, at some moment of it, to a host that answers from a list. -/
def Interpreter.Shows (i : Interpreter) (answers : List Text) (p : Option Program)
    (es : List Event) : Prop :=
  match p with
  | none => es = []
  | some p => ∃ n m q, Machine.Path (Queue.host {}) i.limit n (.ofProgram p)
      (Queue.start {} answers) m q ∧ q.events = es

end LessonLang
