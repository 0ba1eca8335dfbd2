import LessonLang.Proofs.Machine.Discipline
import LessonLang.Proofs.Machine.Queue

/-!
A larger bound on the nesting of calls only makes runs longer.

* `Host.recording`: any host, with a record of what the run prints and asks. `Interpreter.Records`
  collects the records at the moments of a run, whether or not it ever ends.
* `Machine.step_limit`: under a larger bound a machine steps as it did, unless it failed because a
  call would have been nested too deep.
* `Machine.Path.of_limit`: so the run under the larger bound keeps step with the other one until
  that one fails for this reason. From then on it does nothing but fail (`Machine.Path.of_failure`),
  and its host sees nothing more of it.
* `limit_monotone`: what follows for the records and the end of a run.
-/

namespace LessonLang

open Machine

variable {σ : Type}

/-! ### Records -/

namespace Host

/-- **A host with a record** of the texts that the run prints and of its prompts, in order. -/
def recording (h : Host σ) : Host (σ × List Event) where
  emit text r := (h.emit text r.1, r.2 ++ [.output text])
  ask text r := ((h.ask text r.1).1, (h.ask text r.1).2, r.2 ++ [.prompt text])
  cancelled r := h.cancelled r.1
  elapse r := (h.elapse r.1, r.2)

variable {h : Host σ} {limit : Nat} {m m' : Machine}

lemma hostAt_recording (m : Machine) (r : σ × List Event) :
    m.hostAt h.recording r = (m.hostAt h r.1, r.2) := by
  rw [hostAt, hostAt]
  split_ifs <;> rfl

/-- A move adds to the record. -/
lemma record_prefix_of_move {r r' : σ × List Event}
    (hm : m.move h.recording limit r = some (m', r')) : r.2 <+: r'.2 := by
  rw [move, hostAt_recording] at hm
  split at hm
  next => exact absurd hm (by simp)
  next =>
    obtain ⟨-, rfl⟩ := Prod.mk.inj (Option.some.inj hm)
    exact List.prefix_rfl
  next =>
    obtain ⟨-, rfl⟩ := Prod.mk.inj (Option.some.inj hm)
    exact List.prefix_append _ _
  next =>
    obtain ⟨-, rfl⟩ := Prod.mk.inj (Option.some.inj hm)
    exact List.prefix_append _ _

/-- **Along a run the record only grows.** -/
lemma record_prefix {n : Nat} {r r' : σ × List Event} (hp : Path h.recording limit n m r m' r') :
    r.2 <+: r'.2 := by
  induction hp with
  | refl => exact List.prefix_rfl
  | step hm _ ih => exact (record_prefix_of_move hm).trans ih

end Host

/-- **The records of a run**: what it has printed and asked at some moment of it. A missing program
does neither. -/
def Interpreter.Records (i : Interpreter) (h : Host σ) (s : σ) (p : Option Program)
    (es : List Event) : Prop :=
  match p with
  | none => es = []
  | some p => ∃ n m s', Path h.recording i.limit n (.ofProgram p) (s, []) m (s', es)

namespace Interpreter

variable {i : Interpreter} {h : Host σ} {s : σ} {p : Option Program} {fuel : Nat}
  {out : Outcome (σ × List Event)}

/-- What a run has recorded in the end is one of its records. -/
lemma records_of_run (ho : i.run h.recording fuel p (s, []) = some out) :
    i.Records h s p out.host.2 := by
  cases p with
  | none =>
      obtain rfl := Option.some.inj ho
      rfl
  | some p =>
      obtain ⟨m, r, hr, rfl⟩ := finish_eq_some ho
      obtain ⟨n, -, hp, -⟩ := run_eq_some_iff.mp hr
      exact ⟨n, m, r.1, hp⟩

/-- All records of a run that ends are beginnings of the last one. -/
lemma Records.prefix_of_run {es : List Event} (hes : i.Records h s p es)
    (ho : i.run h.recording fuel p (s, []) = some out) : es <+: out.host.2 := by
  cases p with
  | none =>
      obtain rfl : es = [] := hes
      exact List.nil_prefix
  | some p =>
      obtain ⟨n, m, s', hp⟩ := hes
      obtain ⟨m', r, hr, rfl⟩ := finish_eq_some ho
      obtain ⟨n', hrest⟩ := hp.rest_of_run hr
      exact Host.record_prefix hrest

end Interpreter

/-! ### Calls nested too deep -/

/-- The failure is that a call would be nested too deep. -/
def Failure.isTooDeep : Failure → Bool
  | .runtime ⟨.depthExceeded _, _⟩ => true
  | _ => false

namespace Machine

/-- The machine fails because a call would be nested too deep. -/
def TooDeep (m : Machine) : Prop := ∃ f, m.failure? = some f ∧ f.isTooDeep = true

variable {h : Host σ} {limit d d' n : Nat} {m m' : Machine} {s s' : σ}

/-- **A step under a larger bound** is the step under the smaller one, unless that one fails because
of the bound. -/
lemma step_limit (hd : d ≤ d') (m : Machine) (c : Bool) :
    m.step d' c = m.step d c
      ∨ ∃ m₁ m₂, m.step d c = .next m₁ ∧ m₁.TooDeep ∧ m.step d' c = .next m₂ := by
  obtain ⟨control, k, scopes, functions, calls⟩ := m
  cases control with
  | enter span name args =>
      simp only [step, stepEnter]
      cases functions.get? name with
      | none => exact Or.inl rfl
      | some f =>
          by_cases hdeep' : d' ≤ calls
          · have hdeep : d ≤ calls := hd.trans hdeep'
            exact Or.inl (by simp only [hdeep, hdeep', if_true])
          · by_cases hdeep : d ≤ calls
            · -- between the two bounds: whether the run was cancelled is looked up in one run only
              simp only [hdeep, hdeep', if_true, if_false]
              cases c <;> exact Or.inr ⟨_, _, rfl, ⟨_, rfl, rfl⟩, rfl⟩
            · exact Or.inl (by simp only [hdeep, hdeep', if_false])
  | block body => cases body <;> exact Or.inl rfl
  | assign a => cases a <;> exact Or.inl rfl
  | branches bs =>
      rcases bs with _ | ⟨_ | ⟨span, c, body⟩, rest⟩
      · exact Or.inl rfl
      · exact Or.inl rfl
      · cases c <;> exact Or.inl rfl
  | _ => exact Or.inl rfl

/-- A move that fails because of the bound is a move under the larger bound too, which does the same
to the host. -/
lemma move_limit (hd : d ≤ d') (hm : m.move h d s = some (m', s')) :
    m.move h d' s = some (m', s') ∨ m'.TooDeep ∧ ∃ m₂, m.move h d' s = some (m₂, s') := by
  rw [move] at hm
  obtain hstep | ⟨m₁, m₂, hstep, hdeep, hstep'⟩ :=
    step_limit hd m (h.cancelled (m.hostAt h s))
  · rw [move, hstep]
    exact Or.inl hm
  · rw [hstep] at hm
    obtain ⟨rfl, rfl⟩ := Prod.mk.inj (Option.some.inj hm)
    exact Or.inr ⟨hdeep, m₂, by rw [move, hstep']⟩

/-- **A run that has failed** goes on failing, and its host sees nothing more of it. -/
lemma Path.of_failure {f : Failure} (hp : Path h limit n m s m' s') (hf : m.failure? = some f) :
    m'.failure? = some f ∧ s' = s := by
  induction hp with
  | refl m s => exact ⟨hf, rfl⟩
  | @step n m m₁ m' s s₁ s' hm _ ih =>
      have hat : m.hostAt h s = s := by
        obtain ⟨control, k, scopes, functions, calls⟩ := m
        cases control with
        | failed g => rfl
        | _ => exact absurd hf (by simp [failure?])
      rw [move, hat] at hm
      obtain hhalt | ⟨m₂, hnext, hf₂, -⟩ := @step_of_failure limit m (h.cancelled s) f hf
      · rw [hhalt] at hm
        exact absurd hm (by simp)
      · rw [hnext] at hm
        obtain ⟨rfl, rfl⟩ := Prod.mk.inj (Option.some.inj hm)
        exact ih hf₂

/-- **A run under a larger bound** goes along every path under the smaller one, or that path comes
to fail because of the bound, and the run under the larger bound does the same to the host. -/
lemma Path.of_limit (hd : d ≤ d') (hp : Path h d n m s m' s') :
    Path h d' n m s m' s' ∨ m'.TooDeep ∧ ∃ n' m₂, Path h d' n' m s m₂ s' := by
  induction hp with
  | refl m s => exact Or.inl (.refl m s)
  | step hm hp ih =>
      obtain hm' | ⟨⟨f, hf, hdeep⟩, m₂, hm'⟩ := move_limit hd hm
      · obtain hp' | ⟨htoo, n', m₂, hp'⟩ := ih
        · exact Or.inl (.step hm' hp')
        · exact Or.inr ⟨htoo, n' + 1, m₂, .step hm' hp'⟩
      · obtain ⟨hf', rfl⟩ := hp.of_failure hf
        exact Or.inr ⟨⟨f, hf', hdeep⟩, 1, m₂, .step hm' (.refl _ _)⟩

/-- What the host has come to under some bound, it also comes to under a larger one. -/
lemma Path.exists_of_limit (hd : d ≤ d') (hp : Path h d n m s m' s') :
    ∃ n' m₂, Path h d' n' m s m₂ s' := by
  obtain hp' | ⟨-, hp'⟩ := hp.of_limit hd
  · exact ⟨n, m', hp'⟩
  · exact hp'

/-- A run that ends, and does not do so because of the bound, ends alike under a larger one. -/
lemma run_of_limit (hd : d ≤ d') {fuel : Nat} (hr : m.run h d fuel s = some (m', s'))
    (hdeep : ¬m'.TooDeep) : m.run h d' fuel s = some (m', s') := by
  obtain ⟨n, hn, hp, hend⟩ := run_eq_some_iff.mp hr
  have hp' : Path h d' n m s m' s' := (hp.of_limit hd).resolve_right fun hfails => hdeep hfails.1
  have hend' : m'.move h d' s' = none := move_eq_none_iff.mpr (move_eq_none_iff.mp hend)
  exact run_eq_some_iff.mpr ⟨n, hn, hp', hend'⟩

end Machine

/-! ### Two bounds -/

/-- **The bound on the nesting of calls is monotone.** For every program and every host, everything
that a run records under some bound is also recorded under any larger one, whether or not the runs
end, and it is a beginning of what is recorded there in the end. A run that ends under the smaller
bound, and not because a call would be nested too deep, has the same outcome under the larger one,
down to the failure, the record, the variables and the functions. -/
theorem limit_monotone (h : Host σ) (i : Interpreter) {d d' : Nat} (hd : d ≤ d')
    (p : Option Program) (s : σ) :
    (∀ es, Interpreter.Records { i with limit := d } h s p es →
      Interpreter.Records { i with limit := d' } h s p es
      ∧ ∀ fuel out, Interpreter.run { i with limit := d' } h.recording fuel p (s, []) = some out →
        es <+: out.host.2)
    ∧ ∀ fuel out, Interpreter.run { i with limit := d } h.recording fuel p (s, []) = some out →
      Interpreter.Records { i with limit := d } h s p out.host.2
      ∧ ((∀ f, out.failure = some f → f.isTooDeep = false) →
        Interpreter.run { i with limit := d' } h.recording fuel p (s, [])
          = some { out with interpreter := { out.interpreter with limit := d' } }) := by
  have hmore : ∀ es, Interpreter.Records { i with limit := d } h s p es →
      Interpreter.Records { i with limit := d' } h s p es := by
    intro es hes
    cases p with
    | none => exact hes
    | some p =>
        obtain ⟨n, m, s', hp⟩ := hes
        obtain ⟨n', m₂, hp'⟩ := hp.exists_of_limit hd
        exact ⟨n', m₂, s', hp'⟩
  refine ⟨fun es hes => ⟨hmore es hes, fun fuel out ho => (hmore es hes).prefix_of_run ho⟩, ?_⟩
  intro fuel out ho
  refine ⟨Interpreter.records_of_run ho, ?_⟩
  intro hfailure
  cases p with
  | none =>
      obtain rfl := Option.some.inj ho
      rfl
  | some p =>
      obtain ⟨m, r, hr, rfl⟩ := Interpreter.finish_eq_some ho
      have hdeep : ¬m.TooDeep := by
        rintro ⟨f, hf, hdeep⟩
        exact absurd (hfailure f hf) (by rw [hdeep]; simp)
      rw [Interpreter.run, Interpreter.finish, run_of_limit hd hr hdeep]
      rfl

/-- A function that prints and calls another one, which prints too. -/
def nestedPrintsProgram : Program :=
  ⟨none,
    [.function none [0x66] [] [.print none (.string none [0x61]), .call none [0x67] []],
     .function none [0x67] [] [.print none (.string none [0x62])],
     .call none [0x66] []]⟩

/-- The bound one is too small for its calls, which cuts the record short. Two is enough, and three
makes no difference. -/
theorem limit_monotone_nested :
    (∃ out out', Interpreter.run ⟨1, .empty, []⟩ (Queue.host {}).recording 40
        (some nestedPrintsProgram) (Queue.start {} [], []) = some out
      ∧ Interpreter.run ⟨2, .empty, []⟩ (Queue.host {}).recording 40
        (some nestedPrintsProgram) (Queue.start {} [], []) = some out'
      ∧ out.failure = some (.ofNode (.depthExceeded [0x67]) none)
      ∧ out.host.2 = [.output [0x61]] ∧ out'.host.2 = [.output [0x61], .output [0x62]]
      ∧ out.host.2 <+: out'.host.2)
    ∧ ∃ out, Interpreter.run ⟨2, .empty, []⟩ (Queue.host {}).recording 40
        (some nestedPrintsProgram) (Queue.start {} [], []) = some out
      ∧ out.failure = none
      ∧ Interpreter.run ⟨3, .empty, []⟩ (Queue.host {}).recording 40
          (some nestedPrintsProgram) (Queue.start {} [], [])
        = some { out with interpreter := { out.interpreter with limit := 3 } } := by
  have hsmall := limit_monotone (Queue.host {}) ⟨0, .empty, []⟩ (show 1 ≤ 2 by decide)
    (some nestedPrintsProgram) (Queue.start {} [])
  have hlarge := limit_monotone (Queue.host {}) ⟨0, .empty, []⟩ (show 2 ≤ 3 by decide)
    (some nestedPrintsProgram) (Queue.start {} [])
  refine ⟨⟨_, _, rfl, rfl, rfl, rfl, rfl, ?_⟩, _, rfl, rfl, ?_⟩
  · exact (hsmall.1 _ (hsmall.2 40 _ rfl).1).2 40 _ rfl
  · exact (hlarge.2 40 _ rfl).2 (by rintro f ⟨⟩)

end LessonLang
