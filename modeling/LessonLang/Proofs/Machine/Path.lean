import Mathlib.Tactic
import LessonLang.Run

/-!
Runs as paths.

* A move is a step of the machine and what the host makes of it: `Step.All.move` carries a
  property of all that a step leads to over to the move.
* Work above some frames is `Finished` when its control has come to an end and those frames are
  all that is left. The machine halts exactly when the work above no frame is finished
  (`move_eq_none_iff`).
* `Machine.Path` strings moves together. What every move keeps, a path keeps (`Path.invariant`).
* `Machine.run_eq_some_iff`: a run ends where a path from its start comes to an end. As a move is
  a function of machine and host, a run that ends goes along every path from its start
  (`Path.run_eq`).
-/

namespace LessonLang

variable {σ : Type}

/-- The control has come to an end: what was to be done is done, or failed. -/
def Control.settled : Control → Bool
  | .value _ | .done | .returned _ | .failed _ => true
  | _ => false

/-- **What a step leads to** has the property `P`, and waits for the answer if the step asked. -/
def Step.All (P : Machine → Prop) : Step → Prop
  | .next m | .emit _ m => P m
  | .ask name m => m.control = .await name ∧ P m
  | .halt => True

/-- A step to another machine. -/
def Step.map (f : Machine → Machine) : Step → Step
  | .next m => .next (f m)
  | .emit text m => .emit text (f m)
  | .ask name m => .ask name (f m)
  | .halt => .halt

/-- A move leads where its step leads, and past the answer of the host if the step asked. -/
lemma Step.All.move {h : Host σ} {limit : Nat} {P : Machine → Prop} {m m' : Machine} {s s' : σ}
    (hstep : (m.step limit (h.cancelled (m.hostAt h s))).All P)
    (hanswer : ∀ name m₁ a s₁, m₁.control = .await name →
      h.ask (promptText name) (m.hostAt h s) = (a, s₁) → P m₁ → P (m₁.answer (h.cancelled s₁) a))
    (hm : m.move h limit s = some (m', s')) : P m' := by
  rw [Machine.move] at hm
  split at hm
  next => exact absurd hm (by simp)
  next hnext =>
    obtain ⟨rfl, -⟩ := Prod.mk.inj (Option.some.inj hm)
    rw [hnext] at hstep
    exact hstep
  next hemit =>
    obtain ⟨rfl, -⟩ := Prod.mk.inj (Option.some.inj hm)
    rw [hemit] at hstep
    exact hstep
  next hask =>
    obtain ⟨rfl, -⟩ := Prod.mk.inj (Option.some.inj hm)
    rw [hask] at hstep
    exact hanswer _ _ _ _ hstep.1 rfl hstep.2

namespace Machine

variable {h : Host σ} {limit : Nat}

/-! ### The end of a run -/

/-- Work above the frames `base` is finished. -/
def Finished (m : Machine) (base : List Frame) : Prop :=
  m.control.settled = true ∧ m.frames = base

lemma stepEval_ne_halt (m : Machine) (k : List Frame) (e : Expr) : m.stepEval k e ≠ .halt := by
  cases e with
  | identifier span name => rw [stepEval]; split <;> simp [fail, resume]
  | call span name args =>
      rw [stepEval.eq_def]
      dsimp only
      split
      · cases args <;> simp [resume]
      · simp [fail, resume]
  | _ => simp [stepEval, fail, resume]

lemma stepExec_ne_halt (m : Machine) (k : List Frame) (s : Stmt) : m.stepExec k s ≠ .halt := by
  rw [stepExec.eq_def]
  split <;> simp [fail, resume]

lemma stepEnter_ne_halt (m : Machine) (c : Bool) (k : List Frame) (span : Span) (name : Text)
    (args : List Value) : m.stepEnter limit c k span name args ≠ .halt := by
  rw [stepEnter]
  split
  · simp [fail, resume]
  · split_ifs <;> simp [fail, resume]

lemma leave_ne_halt (m : Machine) (c : Control) (k : List Frame) : m.leave c k ≠ .halt := by
  rw [leave.eq_def]
  split
  · simp
  · split <;> simp [resume]

lemma stepValue_cons_ne_halt (m : Machine) (v : Value) (f : Frame) (k : List Frame) :
    m.stepValue v (f :: k) ≠ .halt := by
  cases f with
  | operate span op left => rw [stepValue]; split <;> simp [fail, resume]
  | arguments span name ready rest => cases rest <;> simp [stepValue, resume]
  | select body rest => rw [stepValue]; split_ifs <;> simp [resume]
  | test l => rw [stepValue]; split_ifs <;> simp [resume]
  | _ => simp [stepValue, resume]

lemma stepDone_cons_ne_halt (m : Machine) (f : Frame) (k : List Frame) :
    m.stepDone (f :: k) ≠ .halt := by
  cases f with
  | body l => rw [stepDone]; split <;> simp [resume]
  | call => exact leave_ne_halt m _ k
  | _ => simp [stepDone, resume]

lemma stepReturned_cons_ne_halt (m : Machine) (v : Value) (f : Frame) (k : List Frame) :
    m.stepReturned v (f :: k) ≠ .halt := by
  cases f with
  | call => exact leave_ne_halt m _ k
  | _ => simp [stepReturned, resume]

lemma stepFailed_cons_ne_halt (m : Machine) (e : Failure) (f : Frame) (k : List Frame) :
    m.stepFailed e (f :: k) ≠ .halt := by
  cases f with
  | call => exact leave_ne_halt m _ k
  | _ => simp [stepFailed, resume]

/-- There is nothing left to do exactly if the work above no frame is finished. -/
lemma step_eq_halt_iff {m : Machine} {c : Bool} :
    m.step limit c = .halt ↔ m.Finished [] := by
  rw [Finished]
  obtain ⟨control, frames, scopes, functions, calls⟩ := m
  cases control with
  | eval e => simp [step, Control.settled, stepEval_ne_halt]
  | exec s => simp [step, Control.settled, stepExec_ne_halt]
  | block body => cases body <;> simp [step, Control.settled, resume]
  | assign a => cases a <;> simp [step, Control.settled, resume, fail]
  | branches bs =>
      simp only [Control.settled, Bool.false_eq_true, false_and, iff_false]
      rw [step.eq_def]
      dsimp only
      split <;> simp_all [resume]
  | round l => cases c <;> simp [step, Control.settled, resume]
  | enter span name args => simp [step, Control.settled, stepEnter_ne_halt]
  | await name => simp [step, Control.settled]
  | value v =>
      cases frames with
      | nil => simp [step, Control.settled, stepValue]
      | cons f k => simp [step, stepValue_cons_ne_halt]
  | done =>
      cases frames with
      | nil => simp [step, Control.settled, stepDone]
      | cons f k => simp [step, stepDone_cons_ne_halt]
  | returned v =>
      cases frames with
      | nil => simp [step, Control.settled, stepReturned]
      | cons f k => simp [step, stepReturned_cons_ne_halt]
  | failed e =>
      cases frames with
      | nil => simp [step, Control.settled, stepFailed]
      | cons f k => simp [step, stepFailed_cons_ne_halt]

lemma move_eq_none_iff {m : Machine} {s : σ} :
    m.move h limit s = none ↔ m.Finished [] := by
  rw [← @step_eq_halt_iff limit m (h.cancelled (m.hostAt h s)), move]
  split <;> simp_all

/-! ### Paths -/

/-- **A path** of `n` moves from one machine and host to another. -/
inductive Path (h : Host σ) (limit : Nat) : Nat → Machine → σ → Machine → σ → Prop where
  | refl (m : Machine) (s : σ) : Path h limit 0 m s m s
  | step {n : Nat} {m m₁ m' : Machine} {s s₁ s' : σ} (hm : m.move h limit s = some (m₁, s₁))
      (hp : Path h limit n m₁ s₁ m' s') : Path h limit (n + 1) m s m' s'

lemma Path.trans {n n' : Nat} {m m₁ m' : Machine} {s s₁ s' : σ} (hp : Path h limit n m s m₁ s₁)
    (hp' : Path h limit n' m₁ s₁ m' s') : Path h limit (n + n') m s m' s' := by
  induction hp with
  | refl m s =>
      rw [Nat.zero_add]
      exact hp'
  | step hm _ ih =>
      rw [Nat.add_right_comm]
      exact .step hm (ih hp')

/-- **What every move keeps, a path keeps.** -/
lemma Path.invariant {P : Machine → Prop} {n : Nat} {m m' : Machine} {s s' : σ}
    (hP : ∀ m s m' s', P m → m.move h limit s = some (m', s') → P m')
    (hp : Path h limit n m s m' s') (hm : P m) : P m' := by
  induction hp with
  | refl m s => exact hm
  | step hm₁ _ ih => exact ih (hP _ _ _ _ hm hm₁)

/-! ### Runs -/

lemma run_of_move {fuel : Nat} {m m' : Machine} {s s' : σ}
    (hm : m.move h limit s = some (m', s')) :
    m.run h limit (fuel + 1) s = m'.run h limit fuel s' := by
  rw [run, hm]

lemma run_of_halt {fuel : Nat} {m : Machine} {s : σ} (hm : m.move h limit s = none) :
    m.run h limit (fuel + 1) s = some (m, s) := by
  rw [run, hm]

/-- A run goes along the path from its start. -/
lemma Path.run_eq {n : Nat} {m m' : Machine} {s s' : σ} (hp : Path h limit n m s m' s')
    (fuel : Nat) : m.run h limit (n + fuel) s = m'.run h limit fuel s' := by
  induction hp with
  | refl m s => rw [Nat.zero_add]
  | step hm _ ih => rw [Nat.add_right_comm, run_of_move hm, ih]

/-- A path is too long for a run with less fuel than it has moves. -/
lemma Path.run_eq_none {n fuel : Nat} {m m' : Machine} {s s' : σ} (hp : Path h limit n m s m' s')
    (hfuel : fuel ≤ n) : m.run h limit fuel s = none := by
  induction hp generalizing fuel with
  | refl m s =>
      rw [Nat.le_zero.mp hfuel]
      rfl
  | step hm _ ih =>
      cases fuel with
      | zero => rfl
      | succ fuel =>
          rw [run_of_move hm]
          exact ih (Nat.le_of_succ_le_succ hfuel)

/-- **A run ends** where a path from its start can go no further. -/
lemma run_eq_some_iff {fuel : Nat} {m m' : Machine} {s s' : σ} :
    m.run h limit fuel s = some (m', s')
      ↔ ∃ n < fuel, Path h limit n m s m' s' ∧ m'.move h limit s' = none := by
  constructor
  · intro hr
    induction fuel generalizing m s with
    | zero => exact absurd hr (by simp [run])
    | succ fuel ih =>
        cases hm : m.move h limit s with
        | none =>
            rw [run_of_halt hm] at hr
            obtain ⟨rfl, rfl⟩ := Prod.mk.inj (Option.some.inj hr)
            exact ⟨0, Nat.succ_pos fuel, .refl m s, hm⟩
        | some r =>
            rw [run_of_move hm] at hr
            obtain ⟨n, hn, hp, hend⟩ := ih hr
            exact ⟨n + 1, Nat.succ_lt_succ hn, .step hm hp, hend⟩
  · rintro ⟨n, hn, hp, hend⟩
    obtain ⟨j, rfl⟩ : ∃ j, fuel = n + (j + 1) := ⟨fuel - n - 1, by omega⟩
    rw [hp.run_eq, run_of_halt hend]

/-- A run has one end, however much fuel there is for it. -/
lemma run_unique {fuel fuel' : Nat} {m : Machine} {s : σ} {r r' : Machine × σ}
    (hr : m.run h limit fuel s = some r) (hr' : m.run h limit fuel' s = some r') : r = r' := by
  obtain ⟨n, -, hp, hend⟩ := run_eq_some_iff.mp hr
  obtain ⟨n', -, hp', hend'⟩ := run_eq_some_iff.mp hr'
  have h₁ : m.run h limit (n + (n' + 1)) s = some r := by rw [hp.run_eq, run_of_halt hend]
  have h₂ : m.run h limit (n' + (n + 1)) s = some r' := by rw [hp'.run_eq, run_of_halt hend']
  rw [show n' + (n + 1) = n + (n' + 1) by omega] at h₂
  exact Option.some.inj (h₁.symm.trans h₂)

/-- A run that ends goes on from wherever a path from its start has come to. -/
lemma Path.rest_of_run {n fuel : Nat} {m m₁ m' : Machine} {s s₁ s' : σ}
    (hp : Path h limit n m s m₁ s₁) (hr : m.run h limit fuel s = some (m', s')) :
    ∃ n', Path h limit n' m₁ s₁ m' s' := by
  obtain ⟨n', hn', hp', hend⟩ := run_eq_some_iff.mp hr
  have hlong : m.run h limit (n + fuel) s = some (m', s') :=
    run_eq_some_iff.mpr ⟨n', by omega, hp', hend⟩
  rw [hp.run_eq] at hlong
  obtain ⟨n₁, -, hp₁, -⟩ := run_eq_some_iff.mp hlong
  exact ⟨n₁, hp₁⟩

/-! ### The end of a part of a run -/

/-- **The work above the frames `base` finishes**: it is finished, or it will be after one more
move. -/
inductive Finishes (h : Host σ) (limit : Nat) (base : List Frame) :
    Machine → σ → Machine → σ → Prop where
  | here {m : Machine} {s : σ} (hm : m.Finished base) : Finishes h limit base m s m s
  | later {m m₁ m' : Machine} {s s₁ s' : σ} (hopen : ¬m.Finished base)
      (hm : m.move h limit s = some (m₁, s₁)) (hf : Finishes h limit base m₁ s₁ m' s') :
      Finishes h limit base m s m' s'

/-- **What every move of unfinished work keeps**, holds when the work is finished. -/
lemma Finishes.invariant {P : Machine → Prop} {base : List Frame} {m m' : Machine} {s s' : σ}
    (hP : ∀ m s m' s', ¬m.Finished base → P m → m.move h limit s = some (m', s') → P m')
    (hf : Finishes h limit base m s m' s') (hm : P m) : P m' ∧ m'.Finished base := by
  induction hf with
  | here hend => exact ⟨hm, hend⟩
  | later hopen hm₁ _ ih => exact ih (hP _ _ _ _ hopen hm hm₁)

/-- A run is the work above no frame. -/
lemma finishes_of_run {fuel : Nat} {m m' : Machine} {s s' : σ}
    (hr : m.run h limit fuel s = some (m', s')) : Finishes h limit [] m s m' s' := by
  obtain ⟨n, -, hp, hend⟩ := run_eq_some_iff.mp hr
  clear hr
  induction hp with
  | refl m s => exact .here (move_eq_none_iff.mp hend)
  | step hm _ ih =>
      refine .later ?_ hm (ih hend)
      rw [← @move_eq_none_iff _ h limit, hm]
      simp

end Machine

end LessonLang
