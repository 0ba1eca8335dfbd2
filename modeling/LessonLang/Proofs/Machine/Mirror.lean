import LessonLang.Proofs.Machine.Path

/-!
Machines that no host can tell apart.

* `Machine.atop` puts a machine on top of further frames. Until it is finished it steps there as it
  does on its own (`Machine.step_atop`), so its paths can be walked there too (`Machine.Path.atop`).
* `Machine.Quietly` is a chain of moves that leave every host as it is, and `Machine.Joins R` says
  that two machines quietly come to machines that `R` relates.
* `Machine.Mirrors R`: machines that `R` relates are the same, or they move alike and join again.
  Then a path from one of two joining machines has its counterpart from the other
  (`Machine.Path.of_joins`).
* `Machine.Interchangeable` machines take every host through the same states and end in the same
  way, if they do. Machines that join under a relation of that kind are
  (`Machine.Interchangeable.of_mirrors`).
-/

namespace LessonLang

namespace Machine

variable {σ : Type} {h : Host σ} {limit : Nat} {m m' : Machine} {s s' : σ}

/-! ### Machines on top of further frames -/

/-- **A machine on top of further frames.** -/
def atop (base : List Frame) (m : Machine) : Machine := { m with frames := m.frames ++ base }

section Atop

variable (base k : List Frame) (m : Machine)

/-- To evaluate an expression does not look at the frames below. -/
lemma stepEval_atop (e : Expr) :
    (m.atop base).stepEval (k ++ base) e = (m.stepEval k e).map (atop base) := by
  cases e with
  | identifier span name =>
      simp only [stepEval, show (m.atop base).scopes = m.scopes from rfl]
      cases m.scopes.lookup? name <;> rfl
  | call span name args =>
      rw [stepEval.eq_def, stepEval.eq_def]
      simp only [show (m.atop base).functions = m.functions from rfl]
      split_ifs
      · cases args <;> rfl
      · rfl
  | _ => rfl

/-- Nor does to carry out a statement. -/
lemma stepExec_atop (st : Stmt) :
    (m.atop base).stepExec (k ++ base) st = (m.stepExec k st).map (atop base) := by
  cases st with
  | giveBack span e => cases e <;> rfl
  | _ => rfl

lemma stepEnter_atop (limit : Nat) (c : Bool) (span : Span) (name : Text) (args : List Value) :
    (m.atop base).stepEnter limit c (k ++ base) span name args
      = (m.stepEnter limit c k span name args).map (atop base) := by
  simp only [stepEnter, show (m.atop base).functions = m.functions from rfl]
  cases m.functions.get? name with
  | none => rfl
  | some f =>
      simp only [show (m.atop base).calls = m.calls from rfl]
      split_ifs <;> rfl

lemma leave_atop (c : Control) :
    (m.atop base).leave c (k ++ base) = (m.leave c k).map (atop base) := by
  rw [leave.eq_def, leave.eq_def, show (m.atop base).scopes = m.scopes from rfl]
  cases m.scopes.pop? with
  | some sc => rfl
  | none => cases c <;> rfl

/-- Nor does to go on with a value, while there is a frame of its own. -/
lemma stepValue_atop (v : Value) (f : Frame) :
    (m.atop base).stepValue v (f :: (k ++ base)) = (m.stepValue v (f :: k)).map (atop base) := by
  cases f with
  | operate span op left =>
      simp only [stepValue]
      cases applyOperator op left v <;> rfl
  | arguments span name ready rest => cases rest <;> rfl
  | select taken rest =>
      simp only [stepValue]
      split_ifs <;> rfl
  | test l =>
      simp only [stepValue]
      split_ifs <;> rfl
  | _ => rfl

lemma stepDone_atop (f : Frame) :
    (m.atop base).stepDone (f :: (k ++ base)) = (m.stepDone (f :: k)).map (atop base) := by
  cases f with
  | body l =>
      obtain ⟨condition, body, increment⟩ := l
      cases increment <;> rfl
  | call => exact leave_atop base k m (.value .undefined)
  | _ => rfl

lemma stepReturned_atop (v : Value) (f : Frame) :
    (m.atop base).stepReturned v (f :: (k ++ base))
      = (m.stepReturned v (f :: k)).map (atop base) := by
  cases f with
  | call => exact leave_atop base k m (.value v)
  | _ => rfl

lemma stepFailed_atop (e : Failure) (f : Frame) :
    (m.atop base).stepFailed e (f :: (k ++ base)) = (m.stepFailed e (f :: k)).map (atop base) := by
  cases f with
  | call => exact leave_atop base k m (.failed e)
  | _ => rfl

/-- **A machine that is not finished** steps on top of further frames as it does on its own. -/
lemma step_atop (hopen : ¬m.Finished []) (limit : Nat) (c : Bool) :
    (m.atop base).step limit c = (m.step limit c).map (atop base) := by
  obtain ⟨control, k, scopes, functions, calls⟩ := m
  have hframes : control.settled = true → ∃ f k', k = f :: k' := by
    intro hsettled
    refine List.exists_cons_of_ne_nil ?_
    rintro rfl
    exact hopen ⟨hsettled, rfl⟩
  cases control with
  | eval e => exact stepEval_atop base k _ e
  | exec st => exact stepExec_atop base k _ st
  | block body => cases body <;> rfl
  | assign a => cases a <;> rfl
  | branches bs =>
      rcases bs with _ | ⟨_ | ⟨span, c, body⟩, rest⟩
      · rfl
      · rfl
      · cases c <;> rfl
  | round l => cases c <;> rfl
  | enter span name args => exact stepEnter_atop base k _ limit c span name args
  | await name => rfl
  | value v =>
      obtain ⟨f, k, rfl⟩ := hframes rfl
      exact stepValue_atop base k _ v f
  | done =>
      obtain ⟨f, k, rfl⟩ := hframes rfl
      exact stepDone_atop base k _ f
  | returned v =>
      obtain ⟨f, k, rfl⟩ := hframes rfl
      exact stepReturned_atop base k _ v f
  | failed e =>
      obtain ⟨f, k, rfl⟩ := hframes rfl
      exact stepFailed_atop base k _ e f

/-- Nor does to take an answer. -/
lemma answer_atop (c : Bool) (a : Answer) :
    (m.atop base).answer c a = (m.answer c a).atop base := by
  obtain ⟨control, k, scopes, functions, calls⟩ := m
  cases control with
  | await name =>
      cases a with
      | error fault => rfl
      | ok text => cases c <;> rfl
  | _ => rfl

end Atop

/-- A move on top of further frames takes the host where the move takes it. -/
lemma move_atop (base : List Frame) {m₁ : Machine} {s₁ : σ}
    (hm : m.move h limit s = some (m₁, s₁)) :
    (m.atop base).move h limit s = some (m₁.atop base, s₁) := by
  have hopen : ¬m.Finished [] := by
    rw [← @move_eq_none_iff _ h limit m s, hm]
    simp
  have hat : (m.atop base).hostAt h s = m.hostAt h s := rfl
  rw [move] at hm ⊢
  rw [hat, step_atop base m hopen]
  cases hstep : m.step limit (h.cancelled (m.hostAt h s)) with
  | halt =>
      rw [hstep] at hm
      exact absurd hm (by simp)
  | ask name m₂ =>
      rw [hstep] at hm
      obtain ⟨rfl, rfl⟩ := Prod.mk.inj (Option.some.inj hm)
      rw [← answer_atop]
      rfl
  | next m₂ =>
      rw [hstep] at hm
      obtain ⟨rfl, rfl⟩ := Prod.mk.inj (Option.some.inj hm)
      rfl
  | emit text m₂ =>
      rw [hstep] at hm
      obtain ⟨rfl, rfl⟩ := Prod.mk.inj (Option.some.inj hm)
      rfl

/-- **A path can be walked on top of further frames.** -/
lemma Path.atop {n : Nat} (hp : Path h limit n m s m' s') (base : List Frame) :
    Path h limit n (m.atop base) s (m'.atop base) s' := by
  induction hp with
  | refl m s => exact .refl _ s
  | step hm _ ih => exact .step (move_atop base hm) ih

/-! ### Quiet moves -/

/-- **A chain of moves that leave the host as it is**, in whatever state that may be. -/
inductive Quietly (h : Host σ) (limit : Nat) : Machine → Machine → Prop where
  | refl (m : Machine) : Quietly h limit m m
  | step {m m₁ m' : Machine} (hm : ∀ s, m.move h limit s = some (m₁, s))
      (hq : Quietly h limit m₁ m') : Quietly h limit m m'

/-- A quiet chain is a path that leaves the host as it is. -/
lemma Quietly.path (hq : Quietly h limit m m') (s : σ) : ∃ n, Path h limit n m s m' s := by
  induction hq with
  | refl m => exact ⟨0, .refl m s⟩
  | step hm _ ih =>
      obtain ⟨n, hp⟩ := ih
      exact ⟨n + 1, .step (hm s) hp⟩

/-- A path from the start of a quiet chain goes on from its end, or stops on the way to it. -/
lemma Quietly.split {n : Nat} {r : Machine} (hq : Quietly h limit m r)
    (hp : Path h limit n m s m' s') :
    (∃ k ≤ n, Path h limit k r s m' s') ∨ s' = s ∧ ¬m'.Finished [] := by
  induction hq generalizing n with
  | refl m => exact Or.inl ⟨n, le_rfl, hp⟩
  | @step m m₁ r hm _ ih =>
      cases hp with
      | refl =>
          refine Or.inr ⟨rfl, ?_⟩
          rw [← @move_eq_none_iff _ h limit _ s, hm s]
          simp
      | @step n _ _ _ _ _ _ hm' hp =>
          obtain ⟨rfl, rfl⟩ := Prod.mk.inj (Option.some.inj ((hm s).symm.trans hm'))
          exact (ih hp).imp_left fun ⟨k, hk, hrest⟩ => ⟨k, hk.trans n.le_succ, hrest⟩

/-! ### Relations between machines -/

variable {R : Machine → Machine → Prop}

/-- Two machines quietly come to machines that `R` relates. -/
def Joins (h : Host σ) (limit : Nat) (R : Machine → Machine → Prop) (m m' : Machine) : Prop :=
  ∃ r r', Quietly h limit m r ∧ Quietly h limit m' r' ∧ R r r'

/-- **Machines that `R` relates** are the same, or they make moves that do the same to the host, and
join again. -/
def Mirrors (h : Host σ) (limit : Nat) (R : Machine → Machine → Prop) : Prop :=
  ∀ m m', R m m' → m = m' ∨ ∀ s, ∃ m₁ m₁' s₁, m.move h limit s = some (m₁, s₁)
    ∧ m'.move h limit s = some (m₁', s₁) ∧ Joins h limit R m₁ m₁'

/-- What is related joins at once. -/
lemma Joins.of_rel (hR : R m m') : Joins h limit R m m' := ⟨m, m', .refl m, .refl m', hR⟩

/-- Machines that join behind one quiet move of each. -/
lemma Joins.of_moves {m₁ m₁' : Machine} (hm : ∀ s, m.move h limit s = some (m₁, s))
    (hm' : ∀ s, m'.move h limit s = some (m₁', s)) (hj : Joins h limit R m₁ m₁') :
    Joins h limit R m m' := by
  obtain ⟨r, r', hq, hq', hR⟩ := hj
  exact ⟨r, r', .step hm hq, .step hm' hq', hR⟩

lemma Joins.flip (hj : Joins h limit R m m') : Joins h limit (flip R) m' m := by
  obtain ⟨r, r', hq, hq', hR⟩ := hj
  exact ⟨r', r, hq', hq, hR⟩

lemma Mirrors.flip (hmir : Mirrors h limit R) : Mirrors h limit (flip R) := by
  intro m m' hR
  refine (hmir m' m hR).imp Eq.symm ?_
  intro hmove s
  obtain ⟨m₁, m₁', s₁, hm, hm', hj⟩ := hmove s
  exact ⟨m₁', m₁, s₁, hm', hm, hj.flip⟩

/-- **A path from one of two joining machines** has a counterpart from the other, which takes the
host to the same state, and ends in the same machine if the path came to its end. -/
lemma Path.of_joins (hmir : Mirrors h limit R) {n : Nat} {m₂ : Machine}
    (hj : Joins h limit R m m') (hp : Path h limit n m s m₂ s') :
    ∃ n' m₂', Path h limit n' m' s m₂' s' ∧ (m₂.Finished [] → m₂' = m₂) := by
  induction n using Nat.strong_induction_on generalizing m m' s with
  | _ n ih =>
      obtain ⟨r, r', hq, hq', hR⟩ := hj
      obtain ⟨n', hp'⟩ := hq'.path s
      obtain ⟨k, hk, hrest⟩ | ⟨rfl, hopen⟩ := hq.split hp
      · obtain rfl | hmove := hmir r r' hR
        · exact ⟨n' + k, m₂, hp'.trans hrest, fun _ => rfl⟩
        · obtain ⟨m₁, m₁', s₁, hm, hm', hj⟩ := hmove s
          cases hrest with
          | refl =>
              refine ⟨n', r', hp', fun hfinished => ?_⟩
              rw [move_eq_none_iff.mpr hfinished] at hm
              exact absurd hm (by simp)
          | @step k _ _ _ _ _ _ hm₁ hrest =>
              -- the related machines moved: the rest of the path is shorter
              obtain ⟨rfl, rfl⟩ := Prod.mk.inj (Option.some.inj (hm.symm.trans hm₁))
              obtain ⟨k', m₂', hrest', hend⟩ := ih k hk hj hrest
              exact ⟨n' + (k' + 1), m₂', hp'.trans (.step hm' hrest'), hend⟩
      · exact ⟨n', r', hp', fun hfinished => absurd hfinished hopen⟩

/-! ### Interchangeable machines -/

/-- **Machines that no host can tell apart**: under every host and every bound on the nesting of
calls their runs end in the same way, if they do, and whether or not they do, the host comes to the
same states. A host may keep a record in its state, so it sees the same in the same order. -/
structure Interchangeable (m m' : Machine) : Prop where
  ends {σ : Type} (h : Host σ) (limit : Nat) (s : σ) (r : Machine × σ) :
    (∃ fuel, m.run h limit fuel s = some r) ↔ ∃ fuel, m'.run h limit fuel s = some r
  passes {σ : Type} (h : Host σ) (limit : Nat) (s s' : σ) :
    (∃ n m₁, Path h limit n m s m₁ s') ↔ ∃ n m₁, Path h limit n m' s m₁ s'

/-- **Machines that join run to the same end.** -/
lemma exists_run_of_joins (hmir : Mirrors h limit R) (hj : Joins h limit R m m') {fuel : Nat}
    {r : Machine × σ} (hr : m.run h limit fuel s = some r) :
    ∃ fuel', m'.run h limit fuel' s = some r := by
  obtain ⟨n, -, hp, hend⟩ := run_eq_some_iff.mp hr
  obtain ⟨n', m₂', hp', heq⟩ := hp.of_joins hmir hj
  obtain rfl := heq (move_eq_none_iff.mp hend)
  exact ⟨n' + 1, run_eq_some_iff.mpr ⟨n', n'.lt_succ_self, hp', hend⟩⟩

/-- What one of them comes to show, the other does as well. -/
lemma exists_path_of_joins (hmir : Mirrors h limit R) (hj : Joins h limit R m m')
    (hp : ∃ n m₁, Path h limit n m s m₁ s') : ∃ n m₁, Path h limit n m' s m₁ s' := by
  obtain ⟨n, m₁, hp⟩ := hp
  obtain ⟨n', m₁', hp', -⟩ := hp.of_joins hmir hj
  exact ⟨n', m₁', hp'⟩

/-- **Machines that join** under a relation that mirrors moves are interchangeable. -/
lemma Interchangeable.of_mirrors
    (hmir : ∀ {σ : Type} (h : Host σ) (limit : Nat), Mirrors h limit R)
    (hj : ∀ {σ : Type} (h : Host σ) (limit : Nat), Joins h limit R m m') :
    Interchangeable m m' where
  ends h limit _ _ :=
    ⟨fun ⟨_, hr⟩ => exists_run_of_joins (hmir h limit) (hj h limit) hr,
      fun ⟨_, hr⟩ => exists_run_of_joins (hmir h limit).flip (hj h limit).flip hr⟩
  passes h limit _ _ :=
    ⟨exists_path_of_joins (hmir h limit) (hj h limit),
      exists_path_of_joins (hmir h limit).flip (hj h limit).flip⟩

end Machine

end LessonLang
