import LessonLang.Proofs.Machine.Discipline
import LessonLang.Proofs.Machine.Queue

/-!
Cancellation only cuts a run short.

* `Queue.Interrupts`: a host that answers from a list and may cancel the run at any moment.
* `Machine.step_cancelled`: where a machine learns that it was cancelled, it fails; everywhere else
  it does what it would have done anyway.
* `Queue.Interrupts.move`, `Queue.Interrupts.path`: so the run keeps step with the one that is never
  cancelled, until it fails because of the cancellation. From then on nothing more is seen of it.
* `cancellation_truncates`: what follows for the events, the end and the variables of the run.
-/

namespace LessonLang

open Machine

variable {σ : Type}

/-! ### Hosts that cancel -/

namespace Queue

/-- The queue `q'` is `q` at a later moment: the run may have been cancelled in between. -/
structure Later (q q' : Queue) : Prop where
  answers : q'.answers = q.answers
  seen : q'.seen = q.seen
  cancelled : q.cancelled = true → q'.cancelled = true

lemma Later.refl (q : Queue) : q.Later q := ⟨rfl, rfl, id⟩

lemma Later.trans {q₁ q₂ q₃ : Queue} (h : q₁.Later q₂) (h' : q₂.Later q₃) : q₁.Later q₃ :=
  ⟨h'.answers.trans h.answers, h'.seen.trans h.seen, h'.cancelled ∘ h.cancelled⟩

lemma Later.eq_of_not_cancelled {q q' : Queue} (h : q.Later q') (hq' : q'.cancelled = false) :
    q = q' := by
  obtain ⟨answers, seen, cancelled⟩ := q
  obtain ⟨answers', seen', cancelled'⟩ := q'
  obtain rfl : cancelled' = false := hq'
  obtain rfl : answers' = answers := h.answers
  obtain rfl : seen' = seen := h.seen
  cases cancelled with
  | false => rfl
  | true => exact absurd (h.cancelled rfl) (by simp)

lemma Later.see {q q' : Queue} (h : q.Later q') (e : Event) :
    Later { q with seen := e :: q.seen } { q' with seen := e :: q'.seen } :=
  ⟨h.answers, congrArg (e :: ·) h.seen, h.cancelled⟩

/-- **A host that answers from a list and cancels when it likes.** Of its state `view` is what
matters to the run. The run can be cancelled before it starts, at every moment at which the program
looks, during an output, and at a prompt before and after its answer is taken off the list. -/
structure Interrupts (h : Host σ) (view : σ → Queue) : Prop where
  cancelled (s : σ) : h.cancelled s = (view s).cancelled
  elapse (s : σ) : (view s).Later (view (h.elapse s))
  emit (text : Text) (s : σ) :
    Later { view s with seen := .output text :: (view s).seen } (view (h.emit text s))
  ask (text : Text) (s : σ) :
    ∃ q, Later { view s with seen := .prompt text :: (view s).seen } q
      ∧ (h.ask text s).1 = q.take.1 ∧ q.take.2.Later (view (h.ask text s).2)

lemma take_of_cancelled {q : Queue} (hq : q.cancelled = true) : q.take = (.error .canceled, q) := by
  rw [take, if_pos hq]

lemma take_of_not_cancelled {q : Queue} (hq : q.cancelled = false) :
    q.take = (.ok (q.answers.headD []), { q with answers := q.answers.tail }) := by
  obtain ⟨answers, seen, cancelled⟩ := q
  obtain rfl : cancelled = false := hq
  cases answers <;> rfl

/-- The host that follows a plan is of this kind, unless it refuses to answer. -/
lemma interrupts_host {plan : Plan} (hplan : plan.failAtPrompt = none) :
    Interrupts (host plan) id where
  cancelled _ := rfl
  elapse q := .refl q
  emit text q := by
    show Later _ (Queue.emit plan text q)
    rw [Queue.emit]
    split
    · exact .refl _
    · exact ⟨rfl, rfl, fun hq => by simp [show q.cancelled = true from hq]⟩
  ask text q := by
    refine ⟨{ q with
      seen := .prompt text :: q.seen
      cancelled := q.cancelled
        || plan.cancelAtPrompt == some (Event.prompts (.prompt text :: q.seen)).length },
      ?_, ?_, ?_⟩
    · exact ⟨rfl, rfl, fun hq => by simp [show q.cancelled = true from hq]⟩
    · show (Queue.ask plan text q).1 = _
      rw [Queue.ask, hplan]
      rfl
    · show Later _ (Queue.ask plan text q).2
      rw [Queue.ask, hplan]
      exact ⟨rfl, rfl, fun hq => by simp [ask.go, hq]⟩

end Queue

/-! ### One step -/

namespace Machine

/-- **A machine that learns of the cancellation** fails, and one that does not goes on as ever. -/
lemma step_cancelled (m : Machine) (limit : Nat) :
    m.step limit true = m.step limit false
      ∨ m.step limit true = m.resume (.failed .canceled) m.frames := by
  obtain ⟨control, k, scopes, functions, calls⟩ := m
  cases control with
  | round l => exact Or.inr rfl
  | enter span name args =>
      simp only [step, stepEnter]
      cases functions.get? name with
      | none => exact Or.inl rfl
      | some f =>
          -- the depth of the calls is looked at before the cancellation
          by_cases hdeep : limit ≤ calls
          · exact Or.inl (by simp only [hdeep, if_true])
          · exact Or.inr (by simp only [hdeep, if_false, if_true])
  | block body => cases body <;> exact Or.inl rfl
  | assign a => cases a <;> exact Or.inl rfl
  | branches bs =>
      rcases bs with _ | ⟨_ | ⟨span, c, body⟩, rest⟩
      · exact Or.inl rfl
      · exact Or.inl rfl
      · cases c <;> exact Or.inl rfl
  | _ => exact Or.inl rfl

/-- The machine fails because the run was cancelled. -/
def Canceled (m : Machine) : Prop := ∃ f, m.failure? = some f ∧ f.isCanceled = true

/-- An answer that comes when the run is cancelled, or instead of which it is, is not used. -/
lemma canceled_answer {m : Machine} {name : Text} (hm : m.control = .await name) {a : Answer}
    (ha : ∀ fault, a = .error fault → fault = .canceled) : (m.answer true a).Canceled := by
  cases a with
  | error fault =>
      obtain rfl := ha fault rfl
      exact ⟨_, failure?_answer_error hm true .canceled, rfl⟩
  | ok text =>
      rw [answer, hm]
      exact ⟨.canceled, rfl, rfl⟩

/-- A cancelled run binds no answer. -/
lemma scopes_answer_cancelled (m : Machine) (a : Answer) : (m.answer true a).scopes = m.scopes := by
  rw [answer]
  split
  · cases a <;> rfl
  · rfl

end Machine

namespace Queue

variable {h : Host σ} {view : σ → Queue} {limit n : Nat} {m m' : Machine} {s s' : σ} {q : Queue}

lemma Interrupts.hostAt (hi : Interrupts h view) (m : Machine) (s : σ) :
    (view s).Later (view (m.hostAt h s)) := by
  rw [Machine.hostAt]
  split_ifs
  · exact hi.elapse s
  · exact .refl _

/-- A prompt goes without an answer only if the run is cancelled. -/
lemma Interrupts.fault_of_ask (hi : Interrupts h view) {text : Text} {fault : InputFault}
    (ha : h.ask text s = (.error fault, s')) : fault = .canceled := by
  obtain ⟨q, -, hanswer, -⟩ := hi.ask text s
  rw [ha] at hanswer
  cases hc : q.cancelled with
  | true =>
      rw [take_of_cancelled hc] at hanswer
      exact Except.error.inj hanswer
  | false =>
      rw [take_of_not_cancelled hc] at hanswer
      exact absurd hanswer (by simp)

/-- A prompt of a run that may be cancelled: unless it is, the answer is the one that the other run
takes. -/
lemma Interrupts.move_ask (hi : Interrupts h view) {name : Text} {m₁ : Machine}
    (hq : q.cancelled = false) (hs : q.Later (view s)) (hm : m.step limit false = .ask name m₁)
    {a : Answer} (ha : h.ask (promptText name) s = (a, s')) :
    (∃ q', m.move (host {}) limit q = some (m₁.answer (h.cancelled s') a, q')
        ∧ q'.cancelled = false ∧ q'.Later (view s'))
      ∨ ((m₁.answer (h.cancelled s') a).Canceled ∧ (view s').cancelled = true
        ∧ ∃ n m₂ q', Path (host {}) limit n m q m₂ q' ∧ q'.seen = (view s').seen) := by
  have hmove := Queue.move_ask hq hm
  obtain ⟨q₁, hlater, hanswer, hend⟩ := hi.ask (promptText name) s
  rw [ha] at hanswer hend
  dsimp only at hanswer hend
  have hshown := (hs.see (.prompt (promptText name))).trans hlater
  rw [hi.cancelled]
  by_cases hc : (view s').cancelled = true
  · have hfault : ∀ fault, a = .error fault → fault = .canceled := by
      rintro fault rfl
      exact hi.fault_of_ask ha
    rw [hc]
    refine Or.inr ⟨canceled_answer (control_of_ask hm) hfault, rfl, 1, _, _,
      .step hmove (.refl _ _), ?_⟩
    calc Event.prompt (promptText name) :: q.seen = q₁.seen := hshown.seen.symm
      _ = q₁.take.2.seen := (seen_take q₁).symm
      _ = (view s').seen := hend.seen.symm
  · have hc₁ : q₁.cancelled = false := by
      by_contra hne
      rw [take_of_cancelled (by simpa using hne)] at hend
      exact hc (hend.cancelled (by simpa using hne))
    rw [take_of_not_cancelled hc₁] at hanswer hend
    obtain rfl := hanswer
    rw [Bool.not_eq_true] at hc
    rw [hc, hshown.answers]
    refine Or.inl ⟨_, hmove, hq, ?_⟩
    exact ⟨by rw [hend.answers, hshown.answers], hend.seen.trans hshown.seen, by simp [hq]⟩

/-- **A move of a run that may be cancelled** is the move that the other run makes, or the run fails
because of the cancellation, behind what the other run shows. -/
lemma Interrupts.move (hi : Interrupts h view) (hq : q.cancelled = false) (hs : q.Later (view s))
    (hm : m.move h limit s = some (m', s')) :
    (∃ q', m.move (host {}) limit q = some (m', q') ∧ q'.cancelled = false ∧ q'.Later (view s'))
      ∨ (m'.Canceled ∧ (view s').cancelled = true
        ∧ ∃ n m₁ q', Path (host {}) limit n m q m₁ q' ∧ q'.seen = (view s').seen) := by
  have hat := hs.trans (hi.hostAt m s)
  rw [Machine.move] at hm
  generalize m.hostAt h s = s₁ at hat hm
  have hstep : m.step limit (h.cancelled s₁) = m.step limit false
      ∨ (h.cancelled s₁ = true ∧ m.step limit true = m.resume (.failed .canceled) m.frames) := by
    cases h.cancelled s₁ with
    | false => exact Or.inl rfl
    | true => exact (m.step_cancelled limit).imp_right fun hfails => ⟨rfl, hfails⟩
  obtain hstep | ⟨hc, hstep⟩ := hstep
  · rw [hstep] at hm
    split at hm
    next => exact absurd hm (by simp)
    next m₁ hnext =>
      obtain ⟨rfl, rfl⟩ := Prod.mk.inj (Option.some.inj hm)
      exact Or.inl ⟨q, move_next hq hnext, hq, hat⟩
    next text m₁ hemit =>
      obtain ⟨rfl, rfl⟩ := Prod.mk.inj (Option.some.inj hm)
      exact Or.inl ⟨_, move_emit hq hemit, hq, (hat.see (.output text)).trans (hi.emit text s₁)⟩
    next name m₁ hask =>
      obtain ⟨rfl, rfl⟩ := Prod.mk.inj (Option.some.inj hm)
      exact hi.move_ask hq hat hask rfl
  · rw [hc, hstep] at hm
    obtain ⟨rfl, rfl⟩ := Prod.mk.inj (Option.some.inj hm)
    have hcancelled : (view s₁).cancelled = true := by rw [← hi.cancelled, hc]
    exact Or.inr ⟨⟨.canceled, rfl, rfl⟩, hcancelled, 0, m, q, .refl m q, hat.seen.symm⟩

/-- **A run that has failed** goes on failing: the host sees nothing more of it, and scopes are only
closed. -/
lemma Interrupts.path_of_failure (hi : Interrupts h view) {f : Failure} (hf : m.failure? = some f)
    (hp : Path h limit n m s m' s') :
    m'.failure? = some f ∧ m'.scopes.tables <:+ m.scopes.tables ∧ (view s).Later (view s') := by
  induction hp with
  | refl m s => exact ⟨hf, List.suffix_rfl, .refl _⟩
  | @step n m m₁ m' s s₁ s' hm _ ih =>
      rw [Machine.move] at hm
      obtain hhalt | ⟨m₂, hnext, hf₂, htables⟩ :=
        @step_of_failure limit m (h.cancelled (m.hostAt h s)) f hf
      · rw [hhalt] at hm
        exact absurd hm (by simp)
      · rw [hnext] at hm
        obtain ⟨rfl, rfl⟩ := Prod.mk.inj (Option.some.inj hm)
        obtain ⟨hf', htables', hlater⟩ := ih hf₂
        exact ⟨hf', htables'.trans htables, (hi.hostAt m s).trans hlater⟩

/-- **A run that may be cancelled keeps step** with the one that is not, until it fails because of
the cancellation. It has shown no more then than the other run shows. -/
lemma Interrupts.path (hi : Interrupts h view) (hq : q.cancelled = false) (hs : q.Later (view s))
    (hp : Path h limit n m s m' s') :
    (∃ q', Path (host {}) limit n m q m' q' ∧ q'.cancelled = false ∧ q'.Later (view s'))
      ∨ (m'.Canceled ∧ (view s').cancelled = true
        ∧ ∃ k m₁ q', Path (host {}) limit k m q m₁ q' ∧ q'.seen = (view s').seen) := by
  induction hp generalizing q with
  | refl m s => exact Or.inl ⟨q, .refl m q, hq, hs⟩
  | step hm hp ih =>
      obtain ⟨q₁, hm₁, hq₁, hs₁⟩ | ⟨⟨f, hf, hcanceled⟩, hc, k, m₁, q₁, hp₁, hseen⟩ :=
        hi.move hq hs hm
      · obtain ⟨q', hp', hend⟩ | ⟨hcanceled, hc, k, m₂, q', hp', hseen⟩ := ih hq₁ hs₁
        · exact Or.inl ⟨q', .step hm₁ hp', hend⟩
        · exact Or.inr ⟨hcanceled, hc, k + 1, m₂, q', .step hm₁ hp', hseen⟩
      · obtain ⟨hf', -, hlater⟩ := hi.path_of_failure hf hp
        exact Or.inr ⟨⟨f, hf', hcanceled⟩, hlater.cancelled hc, k, m₁, q₁, hp₁,
          hseen.trans hlater.seen.symm⟩

/-- Along a run the host only sees more, also if it cancels the run. -/
lemma Interrupts.events_prefix (hi : Interrupts h view) (hp : Path h limit n m s m' s') :
    (view s).events <+: (view s').events := by
  -- the run that is not cancelled from here on
  let q : Queue := { view s with cancelled := false }
  have hq : q.Later (view s) := ⟨rfl, rfl, fun hc => absurd hc (by simp [q])⟩
  have key : ∀ {k : Nat} {m₁ : Machine} {q' : Queue}, Path (host {}) limit k m q m₁ q' →
      q'.seen = (view s').seen → (view s).events <+: (view s').events := by
    intro k m₁ q' hp' hseen
    have hprefix : q.events <+: q'.events := Queue.events_prefix hp'
    rwa [show q'.events = (view s').events from congrArg List.reverse hseen] at hprefix
  obtain ⟨q', hp', -, hlater⟩ | ⟨-, -, k, m₁, q', hp', hseen⟩ := hi.path rfl hq hp
  · exact key hp' hlater.seen.symm
  · exact key hp' hseen

/-- **An answer that comes when the run is cancelled** is bound to no variable. -/
lemma Interrupts.late_answer (hi : Interrupts h view) {name : Text} {m₁ : Machine}
    (hstep : m.step limit (h.cancelled (m.hostAt h s)) = .ask name m₁)
    (hm : m.move h limit s = some (m', s')) (hc : h.cancelled s' = true) :
    m'.Canceled ∧ m'.scopes = m.scopes := by
  rcases ha : h.ask (promptText name) (m.hostAt h s) with ⟨a, s₁⟩
  simp only [Machine.move, hstep, ha] at hm
  obtain ⟨rfl, rfl⟩ := Prod.mk.inj (Option.some.inj hm)
  rw [hc]
  constructor
  · refine canceled_answer (control_of_ask hstep) ?_
    rintro fault rfl
    exact hi.fault_of_ask ha
  · rw [scopes_answer_cancelled, eq_of_ask hstep]

end Queue

/-! ### Whole runs -/

/-- **Cancellation only cuts a run short.** A host answers from a list and may cancel the run at any
moment. What it sees at any moment of the run, the run that is never cancelled shows as well; as
long as it has not cancelled, the two runs are the same; and what it has seen stays. An answer that
comes when the run is cancelled is bound to no variable: the run fails, and all that still happens
is that scopes are closed. In the end the host has seen a beginning of what the other run shows, and
if the run did not fail because of the cancellation, the other run ends in the same way. -/
theorem cancellation_truncates {h : Host σ} {view : σ → Queue} (hi : Queue.Interrupts h view)
    (i : Interpreter) (p : Program) (answers : List Text) (s₀ : σ)
    (hs₀ : (Queue.start {} answers).Later (view s₀)) :
    (∀ n m s, Path h i.limit n (.ofProgram p) s₀ m s →
        i.Shows answers (some p) (view s).events
        ∧ ((view s).cancelled = false →
          Path (Queue.host {}) i.limit n (.ofProgram p) (Queue.start {} answers) m (view s))
        ∧ (∀ n' m' s', Path h i.limit n' m s m' s' → (view s).events <+: (view s').events)
        ∧ ∀ name m₁ m' s', m.step i.limit (h.cancelled (m.hostAt h s)) = .ask name m₁ →
            m.move h i.limit s = some (m', s') → h.cancelled s' = true →
            ∃ f, f.isCanceled = true ∧ ∀ n' m'' s'', Path h i.limit n' m' s' m'' s'' →
              m''.failure? = some f ∧ m''.scopes.tables <:+ m.scopes.tables)
      ∧ ∀ fuel out, i.run h fuel (some p) s₀ = some out →
          (∀ fuel' out', i.run (Queue.host {}) fuel' (some p) (Queue.start {} answers) = some out' →
            (view out.host).events <+: out'.host.events)
          ∧ ((∀ f, out.failure = some f → f.isCanceled = false) →
            ∃ out', i.run (Queue.host {}) fuel (some p) (Queue.start {} answers) = some out'
              ∧ out'.host.events = (view out.host).events ∧ out'.failure = out.failure
              ∧ out'.interpreter = out.interpreter) := by
  have hq₀ : (Queue.start {} answers).cancelled = false := rfl
  have hshows : ∀ n m s, Path h i.limit n (.ofProgram p) s₀ m s →
      i.Shows answers (some p) (view s).events := by
    intro n m s hp
    obtain ⟨q, hp', -, hlater⟩ | ⟨-, -, k, m', q, hp', hseen⟩ := hi.path hq₀ hs₀ hp
    · exact ⟨n, m, q, hp', congrArg List.reverse hlater.seen.symm⟩
    · exact ⟨k, m', q, hp', congrArg List.reverse hseen⟩
  refine ⟨fun n m s hp => ⟨hshows n m s hp, ?_, ?_, ?_⟩, fun fuel out hout => ?_⟩
  · intro hc
    obtain ⟨q, hp', hq, hlater⟩ | ⟨-, hc', -⟩ := hi.path hq₀ hs₀ hp
    · rwa [hlater.eq_of_not_cancelled hc] at hp'
    · exact absurd hc' (by simp [hc])
  · exact fun n' m' s' hp' => hi.events_prefix hp'
  · intro name m₁ m' s' hstep hm hc
    obtain ⟨⟨f, hf, hcanceled⟩, hscopes⟩ := hi.late_answer hstep hm hc
    refine ⟨f, hcanceled, fun n' m'' s'' hp' => ?_⟩
    obtain ⟨hf', htables, -⟩ := hi.path_of_failure hf hp'
    exact ⟨hf', hscopes ▸ htables⟩
  · obtain ⟨m, s, hr, rfl⟩ := Interpreter.finish_eq_some hout
    obtain ⟨n, hn, hp, hend⟩ := run_eq_some_iff.mp hr
    constructor
    · intro fuel' out' hout'
      obtain ⟨m', q', hr', rfl⟩ := Interpreter.finish_eq_some hout'
      obtain ⟨k, m₁, q, hp', hevents⟩ := hshows n m s hp
      rw [← hevents]
      exact Queue.events_prefix_of_run hp' hr'
    · intro hfailure
      obtain ⟨q, hp', -, hlater⟩ | ⟨⟨f, hf, hcanceled⟩, -⟩ := hi.path hq₀ hs₀ hp
      · have hend' : m.move (Queue.host {}) i.limit q = none :=
          move_eq_none_iff.mpr (move_eq_none_iff.mp hend)
        have hr' : (Machine.ofProgram p).run (Queue.host {}) i.limit fuel (Queue.start {} answers)
            = some (m, q) := run_eq_some_iff.mpr ⟨n, hn, hp', hend'⟩
        refine ⟨_, congrArg (Option.map _) hr', ?_, rfl, rfl⟩
        exact congrArg List.reverse hlater.seen.symm
      · exact absurd (hfailure f hf) (by simp [hcanceled])

/-- A program that prints, asks and then prints the answer for ever. -/
def echoing : Program :=
  ⟨none, [.print none (.string none [0x61]), .input none [0x6e],
    .loop none (.string none [0x79]) [.print none (.identifier none [0x6e])]]⟩

/-- A host that cancels when it has the answer. -/
def lateCancel : Plan := { cancelAfterPrompt := some 1 }

/-- The answer is not bound, and the events are those that the run without end begins with. -/
theorem cancellation_truncates_echoing :
    ∃ out, (Interpreter.new none).run (Queue.host lateCancel) 20 (some echoing)
        (Queue.start lateCancel [[0x78]]) = some out
      ∧ out.failure = some .canceled ∧ out.interpreter.scopes = .empty
      ∧ out.host.events = [.output [0x61], .prompt (promptText [0x6e])]
      ∧ (Interpreter.new none).Shows [[0x78]] (some echoing) out.host.events := by
  have hrun : ∃ out, (Interpreter.new none).run (Queue.host lateCancel) 20 (some echoing)
        (Queue.start lateCancel [[0x78]]) = some out
      ∧ out.failure = some .canceled ∧ out.interpreter.scopes = .empty
      ∧ out.host.events = [.output [0x61], .prompt (promptText [0x6e])] := ⟨_, rfl, rfl, rfl, rfl⟩
  obtain ⟨out, hrun, hfailure, hscopes, hevents⟩ := hrun
  refine ⟨out, hrun, hfailure, hscopes, hevents, ?_⟩
  obtain ⟨m, q, hr, rfl⟩ := Interpreter.finish_eq_some hrun
  obtain ⟨n, -, hp, -⟩ := run_eq_some_iff.mp hr
  have hlater : (Queue.start {} [[0x78]]).Later (Queue.start lateCancel [[0x78]]) :=
    ⟨rfl, rfl, fun h => h⟩
  exact ((cancellation_truncates (Queue.interrupts_host rfl) (.new none) echoing [[0x78]] _
    hlater).1 n m q hp).1

end LessonLang
