import LessonLang.Proofs.Machine.Cancel

/-!
A cancelled run stops.

* `Host.Irrevocable`: a host that does not take a cancellation back.
* `Stmt.inner` lists the statements inside a statement that a cancelled run may come to, each of
  them once. The bodies of loops and of functions are not among them.
* `Control.load` and `Frame.load` bound the work that is left by the size of the trees. Every move
  of a cancelled run takes some of it away, leaves all scopes but the innermost one and the number
  of calls alone, and carries out a statement only if it is the next of those that are left
  (`Machine.Subsides`, `Machine.exists_subsides`).
* `Machine.Passes` is work with the machines that it passes through, and `Machine.Barred` says where
  a cancelled run fails: at loops, at prompts and at the entries of functions.
* `cancelled_run_stops`: a cancelled run comes to an end by recursion on the tree.
-/

namespace LessonLang

open Machine

variable {σ : Type}

/-- **A cancellation is not taken back**, whatever time passes and whatever the program prints or
asks. -/
structure Host.Irrevocable (h : Host σ) : Prop where
  elapse {s : σ} (hs : h.cancelled s = true) : h.cancelled (h.elapse s) = true
  emit (text : Text) {s : σ} (hs : h.cancelled s = true) : h.cancelled (h.emit text s) = true
  ask (text : Text) {s : σ} (hs : h.cancelled s = true) : h.cancelled (h.ask text s).2 = true

lemma Queue.irrevocable_host (plan : Plan) : (Queue.host plan).Irrevocable where
  elapse hs := hs
  emit text q hq := by
    change (Queue.emit plan text q).cancelled = true
    rw [Queue.emit]
    split
    · exact hq
    · exact Bool.or_eq_true_iff.mpr (Or.inl hq)
  ask text q hq := by
    have hgo : ∀ n q', q'.cancelled = true → (Queue.ask.go plan n q').2.cancelled = true := by
      intro n q' hq'
      rw [Queue.ask.go, Queue.take_of_cancelled hq']
      exact Bool.or_eq_true_iff.mpr (Or.inl hq')
    change (Queue.ask plan text q).2.cancelled = true
    rw [Queue.ask]
    split
    · split_ifs
      · exact Bool.or_eq_true_iff.mpr (Or.inl hq)
      · exact hgo _ _ (Bool.or_eq_true_iff.mpr (Or.inl hq))
    · exact hgo _ _ (Bool.or_eq_true_iff.mpr (Or.inl hq))

/-! ### The statements that are left -/

mutual

/-- The statements inside a statement, without those in the bodies of loops and functions. -/
def Stmt.inner : Stmt → List Stmt
  | .choose _ bs => Branch.statements bs
  | _ => []

/-- Statements, each with those inside it. -/
def Stmt.withInner : List Stmt → List Stmt
  | [] => []
  | st :: rest => st :: (st.inner ++ Stmt.withInner rest)

/-- The statements of branches. -/
def Branch.statements : List Branch → List Stmt
  | [] => []
  | .absent :: rest => Branch.statements rest
  | .mk _ _ body :: rest => Stmt.withInner body ++ Branch.statements rest

end

/-- The statements that a control may still come to. -/
@[simp] def Control.pending : Control → List Stmt
  | .exec st => st :: st.inner
  | .block body => Stmt.withInner body
  | .branches bs => Branch.statements bs
  | _ => []

/-- The statements that a frame may still come to. -/
@[simp] def Frame.pending : Frame → List Stmt
  | .select block rest => Stmt.withInner block ++ Branch.statements rest
  | .sequence rest => Stmt.withInner rest
  | _ => []

/-! ### The work that is left -/

/-- A bound on the moves that a control takes in a cancelled run. -/
@[simp] noncomputable def Control.load : Control → Nat
  | .eval e => 4 * sizeOf e
  | .exec st => 4 * sizeOf st + 2
  | .block body => 4 * sizeOf body
  | .assign a => 4 * sizeOf a
  | .branches bs => 4 * sizeOf bs
  | .round _ | .enter .. | .await _ => 1
  | .value _ | .done | .returned _ | .failed _ => 0

/-- A bound on the moves that a frame takes in a cancelled run. -/
@[simp] noncomputable def Frame.load : Frame → Nat
  | .right _ _ e => 4 * sizeOf e + 2
  | .arguments _ _ _ rest => 4 * sizeOf rest + 1
  | .select block rest => 4 * sizeOf block + 4 * sizeOf rest + 1
  | .sequence rest => 4 * sizeOf rest + 1
  | .again _ => 2
  | _ => 1

/-- Nothing is left of a control that is settled. -/
lemma Control.of_settled {c : Control} (hc : c.settled = true) : c.load = 0 ∧ c.pending = [] := by
  cases c with
  | value v | done | returned v | failed f => exact ⟨rfl, rfl⟩
  | _ => exact absurd hc (by simp [Control.settled])

lemma Frame.load_pos (f : Frame) : 0 < f.load := by
  cases f <;> simp [Frame.load]

/-- A frame of work that has entered neither the body of a function nor a round of a loop. -/
@[simp] def Frame.isOutside : Frame → Bool
  | .call | .test _ | .body _ => false
  | _ => true

namespace Machine

/-- The statement that a machine is about to carry out. -/
@[simp] def executed? (m : Machine) : Option Stmt :=
  match m.control with
  | .exec st => some st
  | _ => none

/-- **Work above `base` subsides** from a machine with the frames `k` above it to another machine:
there is less of it, it stays outside of functions and loops, and the statement that was carried
out is no longer among those that are left. -/
def Subsides (base k : List Frame) (m m' : Machine) : Prop :=
  ∃ k', m'.frames = k' ++ base ∧ (∀ f ∈ k', f.isOutside = true)
    ∧ m'.control.load + (k'.map Frame.load).sum < m.control.load + (k.map Frame.load).sum
    ∧ List.Sublist (m.executed?.toList ++ (m'.control.pending ++ k'.flatMap Frame.pending))
      (m.control.pending ++ k.flatMap Frame.pending)
    ∧ m'.scopes.outer = m.scopes.outer ∧ m'.calls = m.calls

variable {h : Host σ} {limit : Nat} {base k : List Frame} {m m' : Machine} {s : σ}

/-- To go on with less work under frames outside of functions and loops. -/
lemma Subsides.resume {c : Control} (k' : List Frame) (hout : ∀ f ∈ k', f.isOutside = true)
    (hload : c.load + (k'.map Frame.load).sum < m.control.load + (k.map Frame.load).sum)
    (hpending : List.Sublist (m.executed?.toList ++ (c.pending ++ k'.flatMap Frame.pending))
      (m.control.pending ++ k.flatMap Frame.pending)) :
    (m.resume c (k' ++ base)).All (m.Subsides base k) :=
  ⟨k', rfl, hout, hload, hpending, rfl, rfl⟩

/-- A machine that settles its control. -/
lemma Subsides.settle (hout : ∀ f ∈ k, f.isOutside = true) {c : Control}
    (hc : c.settled = true) (hm : 0 < m.control.load)
    (hexecuted : List.Sublist m.executed?.toList m.control.pending) :
    (m.resume c (k ++ base)).All (m.Subsides base k) := by
  obtain ⟨hload, hpending⟩ := Control.of_settled hc
  refine Subsides.resume k hout ?_ ?_
  · rw [hload]
    omega
  · rw [hpending, List.nil_append]
    exact hexecuted.append_right _

lemma stepEval_subsides (hout : ∀ f ∈ k, f.isOutside = true) {e : Expr}
    (hm : m.control = .eval e) : (m.stepEval (k ++ base) e).All (m.Subsides base k) := by
  cases e with
  | absent => exact Subsides.settle hout rfl (by simp [hm]) (by simp [hm])
  | number span x => exact Subsides.settle hout rfl (by simp [hm]) (by simp [hm])
  | string span t => exact Subsides.settle hout rfl (by simp [hm]) (by simp [hm])
  | identifier span name =>
      rw [stepEval]
      split <;> exact Subsides.settle hout rfl (by simp [hm]) (by simp [hm])
  | binary span op l r =>
      refine Subsides.resume (.right span op r :: k) ?_ ?_ ?_
      · simpa using hout
      · simp [hm]; omega
      · simp [hm]
  | call span name args =>
      rw [stepEval.eq_def]
      dsimp only
      split_ifs
      · cases args with
        | nil => exact Subsides.resume k hout (by simp [hm]; omega) (by simp [hm])
        | cons e rest =>
            refine Subsides.resume (.arguments span name [] rest :: k) ?_ ?_ ?_
            · simpa using hout
            · simp [hm]; omega
            · simp [hm]
      · exact Subsides.settle hout rfl (by simp [hm]) (by simp [hm])

lemma stepExec_subsides (hout : ∀ f ∈ k, f.isOutside = true) {st : Stmt}
    (hm : m.control = .exec st) : (m.stepExec (k ++ base) st).All (m.Subsides base k) := by
  cases st with
  | absent => exact Subsides.settle hout rfl (by simp [hm]) (by simp [hm])
  | assign a => exact Subsides.resume k hout (by simp [hm]) (by simp [hm])
  | print span e =>
      exact Subsides.resume (.print :: k) (by simpa using hout) (by simp [hm]; omega)
        (by simp [hm])
  | input span name => exact ⟨rfl, k, rfl, hout, by simp [hm], by simp [hm], rfl, rfl⟩
  | choose span bs =>
      exact Subsides.resume k hout (by simp [hm]; omega) (by simp [hm, Stmt.inner])
  | loop span c body => exact Subsides.resume k hout (by simp [hm]) (by simp [hm])
  | count span init c inc body =>
      exact Subsides.resume (.again ⟨c, body, some inc⟩ :: k) (by simpa using hout)
        (by simp [hm]; omega) (by simp [hm])
  | function span name params body => exact ⟨k, rfl, hout, by simp [hm], by simp [hm], rfl, rfl⟩
  | call span name args =>
      exact Subsides.resume (.ignore :: k) (by simpa using hout) (by simp [hm]; omega)
        (by simp [hm])
  | giveBack span e =>
      cases e with
      | absent => exact Subsides.settle hout rfl (by simp [hm]) (by simp [hm])
      | _ =>
          exact Subsides.resume (.giveBack :: k) (by simpa using hout) (by simp [hm]; omega)
            (by simp [hm])

/-- A control that is settled leaves the frame above the others behind. -/
lemma Subsides.drop {f : Frame} (hout : ∀ g ∈ f :: k, g.isOutside = true) {c : Control}
    (hm : m.control.settled = true) (hc : c.settled = true) :
    (m.resume c (k ++ base)).All (m.Subsides base (f :: k)) := by
  have hf := f.load_pos
  have hexecuted : m.executed? = none := by
    cases hcontrol : m.control <;> simp_all [Control.settled]
  obtain ⟨hload, hpending⟩ := Control.of_settled hc
  obtain ⟨hload₀, hpending₀⟩ := Control.of_settled hm
  refine Subsides.resume k (fun g hg => hout g (List.mem_cons_of_mem f hg)) ?_ ?_
  · rw [hload, hload₀, List.map_cons, List.sum_cons]
    omega
  · rw [hexecuted, hpending, hpending₀, List.flatMap_cons]
    exact List.sublist_append_right _ _

lemma stepValue_subsides {f : Frame} (hout : ∀ g ∈ f :: k, g.isOutside = true) {v : Value}
    (hm : m.control = .value v) :
    (m.stepValue v (f :: (k ++ base))).All (m.Subsides base (f :: k)) := by
  have hk : ∀ g ∈ k, g.isOutside = true := fun g hg => hout g (List.mem_cons_of_mem f hg)
  have hsettled : m.control.settled = true := by rw [hm]; rfl
  cases f with
  | right span op e =>
      exact Subsides.resume (.operate span op v :: k) (by simpa using hk)
        (by simp [hm]; omega) (by simp [hm])
  | operate span op l =>
      rw [stepValue]
      split
      · exact Subsides.drop hout hsettled rfl
      · exact Subsides.drop hout hsettled rfl
  | arguments span name ready rest =>
      cases rest with
      | nil => exact Subsides.resume k hk (by simp [hm]) (by simp [hm])
      | cons e rest =>
          exact Subsides.resume (.arguments span name (ready ++ [v]) rest :: k)
            (by simpa using hk) (by simp [hm]; omega) (by simp [hm])
  | bind name => exact ⟨k, rfl, hk, by simp [hm], by simp [hm], rfl, rfl⟩
  | print => exact ⟨k, rfl, hk, by simp [hm], by simp [hm], rfl, rfl⟩
  | select block rest =>
      rw [stepValue]
      split_ifs
      · exact Subsides.resume k hk (by simp [hm]) (by simp [hm])
      · exact Subsides.resume k hk (by simp [hm]) (by simp [hm])
  | call | test l | body l => exact absurd (hout _ (List.mem_cons_self)) (by simp)
  | ignore | giveBack | again l | sequence rest => exact Subsides.drop hout hsettled rfl

lemma stepDone_subsides {f : Frame} (hout : ∀ g ∈ f :: k, g.isOutside = true)
    (hm : m.control = .done) :
    (m.stepDone (f :: (k ++ base))).All (m.Subsides base (f :: k)) := by
  have hk : ∀ g ∈ k, g.isOutside = true := fun g hg => hout g (List.mem_cons_of_mem f hg)
  have hsettled : m.control.settled = true := by rw [hm]; rfl
  cases f with
  | sequence rest => exact Subsides.resume k hk (by simp [hm]) (by simp [hm])
  | again l => exact Subsides.resume k hk (by simp [hm]) (by simp [hm])
  | call | body l => exact absurd (hout _ (List.mem_cons_self)) (by simp)
  | _ => exact Subsides.drop hout hsettled rfl

/-- A cancelled run fails at the entry of a function, for one reason or another. -/
lemma stepEnter_cancelled (m : Machine) (limit : Nat) (k : List Frame) (span : Span) (name : Text)
    (args : List Value) : ∃ e, m.stepEnter limit true k span name args = m.resume (.failed e) k := by
  rw [stepEnter]
  split
  · exact ⟨_, rfl⟩
  · by_cases hdeep : limit ≤ m.calls
    · exact ⟨_, if_pos hdeep⟩
    · exact ⟨_, (if_neg hdeep).trans (if_pos rfl)⟩

/-- **A step of unfinished work** of a cancelled run that does not wait for an answer. -/
lemma step_subsides (hout : ∀ f ∈ k, f.isOutside = true) (hm : m.frames = k ++ base)
    (hopen : ¬m.Finished base) (hawait : ∀ name, m.control ≠ .await name) :
    (m.step limit true).All (m.Subsides base k) := by
  obtain ⟨control, frames, scopes, functions, calls⟩ := m
  obtain rfl : frames = k ++ base := hm
  cases control with
  | eval e => exact stepEval_subsides hout rfl
  | exec st => exact stepExec_subsides hout rfl
  | block body =>
      cases body with
      | nil => exact Subsides.settle hout rfl (by simp) (by simp)
      | cons st rest =>
          exact Subsides.resume (.sequence rest :: k) (by simpa using hout) (by simp; omega)
            (by simp [Stmt.withInner])
  | assign a =>
      cases a with
      | none => exact Subsides.settle hout rfl (by simp) (by simp)
      | some a =>
          obtain ⟨span, name, e, declared⟩ := a
          exact Subsides.resume (.bind name :: k) (by simpa using hout) (by simp; omega)
            (by simp)
  | branches bs =>
      rcases bs with _ | ⟨_ | ⟨span, c, body⟩, rest⟩
      · exact Subsides.settle hout rfl (by simp) (by simp)
      · exact Subsides.resume k hout (by simp) (by simp [Branch.statements])
      · cases c with
        | absent => exact Subsides.resume k hout (by simp; omega) (by simp [Branch.statements])
        | _ =>
            exact Subsides.resume (.select body rest :: k) (by simpa using hout)
              (by simp; omega) (by simp [Branch.statements])
  | round l => exact Subsides.settle hout rfl (by simp) (by simp)
  | enter span name args =>
      obtain ⟨e, he⟩ := stepEnter_cancelled ⟨_, k ++ base, scopes, functions, calls⟩ limit (k ++ base)
        span name args
      change (stepEnter _ limit true (k ++ base) span name args).All _
      rw [he]
      exact Subsides.settle hout rfl (by simp) (by simp)
  | await name => exact absurd rfl (hawait name)
  | value v =>
      cases k with
      | nil => exact absurd ⟨rfl, rfl⟩ hopen
      | cons f k => exact stepValue_subsides hout rfl
  | done =>
      cases k with
      | nil => exact absurd ⟨rfl, rfl⟩ hopen
      | cons f k => exact stepDone_subsides hout rfl
  | returned v =>
      cases k with
      | nil => exact absurd ⟨rfl, rfl⟩ hopen
      | cons f k =>
          cases f with
          | call => exact absurd (hout _ (List.mem_cons_self)) (by simp)
          | _ => exact Subsides.drop hout rfl rfl
  | failed e =>
      cases k with
      | nil => exact absurd ⟨rfl, rfl⟩ hopen
      | cons f k =>
          cases f with
          | call => exact absurd (hout _ (List.mem_cons_self)) (by simp)
          | _ => exact Subsides.drop hout rfl rfl

end Machine

lemma Host.Irrevocable.hostAt {h : Host σ} (hi : h.Irrevocable) (m : Machine) {s : σ}
    (hs : h.cancelled s = true) : h.cancelled (m.hostAt h s) = true := by
  rw [Machine.hostAt]
  split_ifs
  · exact hi.elapse hs
  · exact hs

lemma Host.Irrevocable.move {h : Host σ} (hi : h.Irrevocable) {limit : Nat} {m m' : Machine}
    {s s' : σ} (hs : h.cancelled s = true) (hm : m.move h limit s = some (m', s')) :
    h.cancelled s' = true := by
  have hat := hi.hostAt m hs
  rw [Machine.move] at hm
  split at hm
  next => exact absurd hm (by simp)
  next =>
    obtain ⟨-, rfl⟩ := Prod.mk.inj (Option.some.inj hm)
    exact hat
  next text _ _ =>
    obtain ⟨-, rfl⟩ := Prod.mk.inj (Option.some.inj hm)
    exact hi.emit text hat
  next name _ _ =>
    obtain ⟨-, rfl⟩ := Prod.mk.inj (Option.some.inj hm)
    exact hi.ask (promptText name) hat

namespace Machine

variable {h : Host σ} {limit : Nat} {base k : List Frame} {m m' : Machine} {s s' : σ}

/-- A prompt of a cancelled run fails. -/
lemma answer_cancelled {name : Text} (hm : m.control = .await name) (a : Answer) :
    ∃ f, (f = .canceled ∨ ∃ fault, f = .input name fault)
      ∧ m.answer true a = { m with control := .failed f } := by
  rw [answer, hm]
  cases a with
  | error fault => exact ⟨_, Or.inr ⟨fault, rfl⟩, rfl⟩
  | ok text => exact ⟨_, Or.inl rfl, rfl⟩

/-- **Unfinished work of a cancelled run** goes on with less. -/
lemma exists_subsides (limit : Nat) (hi : h.Irrevocable) (hs : h.cancelled s = true)
    (hout : ∀ f ∈ k, f.isOutside = true) (hm : m.frames = k ++ base) (hopen : ¬m.Finished base) :
    ∃ m' s', m.move h limit s = some (m', s') ∧ h.cancelled s' = true ∧ m.Subsides base k m' := by
  have hsome : m.move h limit s ≠ none := by
    rw [Ne, move_eq_none_iff]
    rintro ⟨hsettled, hnil⟩
    obtain ⟨rfl, rfl⟩ := List.append_eq_nil_iff.mp (hm.symm.trans hnil)
    exact hopen ⟨hsettled, hnil⟩
  obtain ⟨⟨m', s'⟩, hmove⟩ := Option.ne_none_iff_exists'.mp hsome
  have hat := hi.hostAt m hs
  refine ⟨m', s', hmove, hi.move hs hmove, ?_⟩
  by_cases hawait : ∃ name, m.control = .await name
  · obtain ⟨name, hname⟩ := hawait
    have hask : m.step limit (h.cancelled (m.hostAt h s)) = .ask name m := by rw [step, hname]
    rcases ha : h.ask (promptText name) (m.hostAt h s) with ⟨a, s₁⟩
    have hs₁ : h.cancelled s₁ = true := by
      have := hi.ask (promptText name) hat
      rwa [ha] at this
    simp only [move, hask, ha] at hmove
    obtain ⟨rfl, rfl⟩ := Prod.mk.inj (Option.some.inj hmove)
    obtain ⟨f, -, hf⟩ := answer_cancelled hname a
    rw [hs₁, hf]
    exact ⟨k, hm, hout, by simp [hname], by simp [hname], rfl, rfl⟩
  · have hstep : (m.step limit (h.cancelled (m.hostAt h s))).All (m.Subsides base k) := by
      rw [hat]
      exact step_subsides hout hm hopen fun name hname => hawait ⟨name, hname⟩
    refine hstep.move ?_ hmove
    rintro name m₁ a s₁ hname hask ⟨k', hk', hout', hload, hpending, houter, hcalls⟩
    have hs₁ : h.cancelled s₁ = true := by
      have := hi.ask (promptText name) hat
      rwa [hask] at this
    obtain ⟨f, -, hf⟩ := answer_cancelled hname a
    rw [hs₁, hf]
    rw [hname] at hload hpending
    refine ⟨k', hk', hout', ?_, hpending, houter, hcalls⟩
    simp only [Control.load] at hload ⊢
    omega

/-! ### Whole work -/

/-- **Work above the frames `base` passes through machines** one after the other, none of them
finished, until it is finished. -/
inductive Passes (h : Host σ) (limit : Nat) (base : List Frame) :
    List Machine → Machine → σ → Machine → σ → Prop where
  | here {m : Machine} {s : σ} (hm : m.Finished base) : Passes h limit base [] m s m s
  | later {m m₁ m' : Machine} {s s₁ s' : σ} {ms : List Machine} (hopen : ¬m.Finished base)
      (hm : m.move h limit s = some (m₁, s₁)) (hp : Passes h limit base ms m₁ s₁ m' s') :
      Passes h limit base (m :: ms) m s m' s'

lemma Passes.finished {ms : List Machine} (hp : Passes h limit base ms m s m' s') :
    m'.Finished base := by
  induction hp with
  | here hm => exact hm
  | later _ _ _ ih => exact ih

/-- Work passes through as many machines as it takes moves. -/
lemma Passes.path {ms : List Machine} (hp : Passes h limit base ms m s m' s') :
    Path h limit ms.length m s m' s' := by
  induction hp with
  | here hm => exact .refl _ _
  | later _ hm _ ih => exact .step hm ih

/-- Unfinished work passes on to where it moves. -/
lemma Passes.of_move {ms : List Machine} {m₁ : Machine} {s₁ : σ}
    (hp : Passes h limit base ms m s m' s') (hopen : ¬m.Finished base)
    (hm : m.move h limit s = some (m₁, s₁)) : ∃ ms₁, Passes h limit base ms₁ m₁ s₁ m' s' := by
  cases hp with
  | here hend => exact absurd hend hopen
  | later _ hm₁ hp =>
      obtain ⟨rfl, rfl⟩ := Prod.mk.inj (Option.some.inj (hm.symm.trans hm₁))
      exact ⟨_, hp⟩

/-- Work of a cancelled run stays outside of functions and loops. -/
structure Outside (base : List Frame) (m₀ m : Machine) : Prop where
  frames : ∃ k, m.frames = k ++ base ∧ ∀ f ∈ k, f.isOutside = true
  outer : m.scopes.outer = m₀.scopes.outer
  calls : m.calls = m₀.calls

/-- **A cancelled run is finished** after no more moves than its load, and carries out statements
that are left, in their order. -/
lemma exists_passes (hi : h.Irrevocable) (limit : Nat) (base : List Frame) (m₀ : Machine) (n : Nat) :
    ∀ (m : Machine) (k : List Frame) (s : σ), h.cancelled s = true → m.frames = k ++ base →
      (∀ f ∈ k, f.isOutside = true) → Outside base m₀ m →
      m.control.load + (k.map Frame.load).sum = n →
      ∃ ms m' s', Passes h limit base ms m s m' s' ∧ ms.length ≤ n
        ∧ (ms.filterMap executed?).Sublist (m.control.pending ++ k.flatMap Frame.pending)
        ∧ ∀ m₁ ∈ m' :: ms, Outside base m₀ m₁ := by
  induction n using Nat.strong_induction_on with
  | _ n ih =>
    intro m k s hs hm hout hoff hn
    by_cases hopen : m.Finished base
    · exact ⟨[], m, s, .here hopen, Nat.zero_le n, List.nil_sublist _, by simpa using hoff⟩
    · obtain ⟨m₁, s₁, hmove, hs₁, k₁, hk₁, hout₁, hload, hpending, houter, hcalls⟩ :=
        exists_subsides limit hi hs hout hm hopen
      have hoff₁ : Outside base m₀ m₁ :=
        ⟨⟨k₁, hk₁, hout₁⟩, houter.trans hoff.outer, hcalls.trans hoff.calls⟩
      obtain ⟨ms, m', s', hp, hlength, hexecuted, hall⟩ :=
        ih _ (hn ▸ hload) m₁ k₁ s₁ hs₁ hk₁ hout₁ hoff₁ rfl
      refine ⟨m :: ms, m', s', .later hopen hmove hp, ?_, ?_, ?_⟩
      · rw [List.length_cons]
        omega
      · refine List.Sublist.trans ?_ hpending
        rw [List.filterMap_cons]
        cases m.executed? with
        | none => exact hexecuted
        | some st => exact hexecuted.cons_cons st
      · simp only [List.mem_cons, forall_eq_or_imp] at hall ⊢
        exact ⟨hall.1, hoff, hall.2⟩

/-! ### Where a cancelled run fails -/

/-- **The bars of a cancelled run**, with the failures it may come to there: a loop, a counting loop
whose first assignment is done, the next round of a loop, a prompt, and the entry of a function that
there is and for which calls are not nested too deep. -/
inductive Barred (limit : Nat) (m : Machine) : Failure → Prop where
  | loop {span : Span} {c : Expr} {body : List Stmt} (hm : m.control = .exec (.loop span c body)) :
      Barred limit m .canceled
  | count {l : Loop} {k : List Frame} (hm : m.control = .done) (hk : m.frames = .again l :: k) :
      Barred limit m .canceled
  | round {l : Loop} (hm : m.control = .round l) : Barred limit m .canceled
  | input {span : Span} {name : Text} (hm : m.control = .exec (.input span name)) :
      Barred limit m .canceled
  | refused {span : Span} {name : Text} (hm : m.control = .exec (.input span name))
      (fault : InputFault) : Barred limit m (.input name fault)
  | enter {span : Span} {name : Text} {args : List Value} {f : Function}
      (hm : m.control = .enter span name args) (hf : m.functions.get? name = some f)
      (hcalls : m.calls < limit) : Barred limit m .canceled

/-- **A failure is carried out** to the frames below the work. -/
lemma Passes.of_failed {ms : List Machine} (hp : Passes h limit base ms m s m' s')
    (hout : ∀ f ∈ k, f.isOutside = true) (hk : m.frames = k ++ base) {e : Failure}
    (hm : m.control = .failed e) : m' = { m with frames := base } := by
  induction hp generalizing k with
  | here hend => rw [← hend.2]
  | @later m m₁ m' s s₁ s' ms hopen hmove _ ih =>
      cases k with
      | nil => exact absurd ⟨by rw [hm]; rfl, hk⟩ hopen
      | cons f k =>
          have hstep : ∀ c, m.step limit c = m.resume (.failed e) (k ++ base) := by
            intro c
            rw [step, hm, hk]
            cases f with
            | call => exact absurd (hout _ List.mem_cons_self) (by simp)
            | _ => rfl
          rw [move, hstep] at hmove
          obtain ⟨rfl, rfl⟩ := Prod.mk.inj (Option.some.inj hmove)
          have hend := ih (fun g hg => hout g (List.mem_cons_of_mem f hg)) rfl rfl
          rw [hend]
          simp [hm]

lemma Passes.of_round (hi : h.Irrevocable) (hs : h.cancelled s = true) {ms : List Machine} {l : Loop}
    (hp : Passes h limit base ms { m with control := .round l, frames := k ++ base } s m' s')
    (hout : ∀ f ∈ k, f.isOutside = true) :
    m' = { m with control := .failed .canceled, frames := base } := by
  cases hp with
  | here hend => exact absurd hend.1 (by simp [Control.settled])
  | later _ hmove hp =>
      rw [move, hi.hostAt _ hs] at hmove
      obtain ⟨rfl, rfl⟩ := Prod.mk.inj (Option.some.inj hmove)
      exact hp.of_failed hout rfl rfl

lemma Passes.of_enter (hi : h.Irrevocable) (hs : h.cancelled s = true) {ms : List Machine} {span : Span}
    {name : Text} {args : List Value} {sc : Scopes} {functions : Table Function} {calls : Nat}
    (hp : Passes h limit base ms ⟨.enter span name args, base, sc, functions, calls⟩ s m' s') :
    ∃ e, m' = ⟨.failed e, base, sc, functions, calls⟩ := by
  cases hp with
  | here hend => exact absurd hend.1 (by simp [Control.settled])
  | later _ hmove hp =>
      obtain ⟨e, he⟩ : ∃ e, step ⟨.enter span name args, base, sc, functions, calls⟩ limit true
          = resume ⟨.enter span name args, base, sc, functions, calls⟩ (.failed e) base :=
        stepEnter_cancelled _ limit base span name args
      rw [move, hi.hostAt _ hs, he] at hmove
      obtain ⟨rfl, rfl⟩ := Prod.mk.inj (Option.some.inj hmove)
      exact ⟨e, @Passes.of_failed _ _ _ _ [] _ _ _ _ _ hp (by simp) rfl e rfl⟩

/-- **At a bar a cancelled run fails.** -/
lemma Passes.of_barred (hi : h.Irrevocable) (hs : h.cancelled s = true) {ms : List Machine}
    (hp : Passes h limit base ms m s m' s') (hopen : ¬m.Finished base)
    (hout : ∀ f ∈ k, f.isOutside = true) (hk : m.frames = k ++ base) {f : Failure}
    (hm : m.Barred limit f) :
    ∃ f, m.Barred limit f ∧ m' = { m with control := .failed f, frames := base } := by
  have hat := hi.hostAt m hs
  have key : ∀ {span : Span} {name : Text}, m.control = .exec (.input span name) →
      ∃ f, m.Barred limit f ∧ m' = { m with control := .failed f, frames := base } := by
    intro span name hm
    rcases ha : h.ask (promptText name) (m.hostAt h s) with ⟨a, s₁⟩
    have hs₁ : h.cancelled s₁ = true := by
      have := hi.ask (promptText name) hat
      rwa [ha] at this
    obtain ⟨f, hf, hanswer⟩ :=
      answer_cancelled (m := { m with control := .await name }) rfl a
    have hmove : m.move h limit s = some ({ m with control := .failed f }, s₁) := by
      have hstep : ∀ c, m.step limit c = .ask name { m with control := .await name } := by
        intro c
        rw [step, hm]
        rfl
      simp only [move, hstep, ha, hs₁, hanswer]
    obtain ⟨ms₁, hp₁⟩ := hp.of_move hopen hmove
    refine ⟨f, ?_, hp₁.of_failed hout hk rfl⟩
    obtain rfl | ⟨fault, rfl⟩ := hf
    · exact .input hm
    · exact .refused hm fault
  cases hm with
  | loop hm =>
      obtain ⟨l, hmove⟩ : ∃ l, m.move h limit s
          = some ({ m with control := .round l, frames := k ++ base }, m.hostAt h s) := by
        rw [move, step, hm, hk]
        exact ⟨_, rfl⟩
      obtain ⟨ms₁, hp₁⟩ := hp.of_move hopen hmove
      exact ⟨_, .loop hm, hp₁.of_round hi hat hout⟩
  | @count l k₁ hm hframes =>
      cases k with
      | nil => exact absurd ⟨by rw [hm]; rfl, hk⟩ hopen
      | cons g k =>
          obtain ⟨rfl, rfl⟩ := List.cons.inj (hframes.symm.trans hk)
          have hmove : m.move h limit s
              = some ({ m with control := .round l, frames := k ++ base }, m.hostAt h s) := by
            rw [move, step, hm, hframes]
            rfl
          obtain ⟨ms₁, hp₁⟩ := hp.of_move hopen hmove
          exact ⟨_, .count hm hframes,
            hp₁.of_round hi hat fun g hg => hout g (List.mem_cons_of_mem _ hg)⟩
  | @round l hm =>
      have hself : m = { m with control := .round l, frames := k ++ base } := by rw [← hm, ← hk]
      rw [hself] at hp
      exact ⟨_, .round hm, hp.of_round hi hs hout⟩
  | input hm => exact key hm
  | refused hm fault => exact key hm
  | enter hm hf hcalls =>
      have hmove : m.move h limit s
          = some ({ m with control := .failed .canceled }, m.hostAt h s) := by
        rw [move, hat, step, hm]
        simp only [stepEnter, hf, Nat.not_le.mpr hcalls, if_false, if_true]
        rfl
      obtain ⟨ms₁, hp₁⟩ := hp.of_move hopen hmove
      exact ⟨_, .enter hm hf hcalls, hp₁.of_failed hout hk rfl⟩

lemma Passes.barred (hi : h.Irrevocable) {ms : List Machine}
    (hp : Passes h limit base ms m s m' s') (hs : h.cancelled s = true)
    (hout : ∀ f ∈ k, f.isOutside = true) (hk : m.frames = k ++ base) :
    ∀ m₁ ∈ ms, (∃ f, m₁.Barred limit f) →
      ∃ f, m₁.Barred limit f ∧ m' = { m₁ with control := .failed f, frames := base } := by
  induction hp generalizing k with
  | here hm => exact fun _ hm₁ => absurd hm₁ List.not_mem_nil
  | @later m m₁ m' s s₁ s' ms hopen hmove hp ih =>
      rintro m₂ hm₂ ⟨f, hf⟩
      obtain ⟨m₃, s₃, hmove₃, hs₃, k', hk', hout', -⟩ :=
        exists_subsides limit hi hs hout hk hopen
      obtain ⟨rfl, rfl⟩ := Prod.mk.inj (Option.some.inj (hmove.symm.trans hmove₃))
      obtain rfl | hm₂ := List.mem_cons.mp hm₂
      · exact (Passes.later hopen hmove hp).of_barred hi hs hopen hout hk hf
      · exact ih hs₃ hout' hk' m₂ hm₂ ⟨f, hf⟩

/-- The work above no frame is a run. -/
lemma Passes.run_eq {ms : List Machine} (hp : Passes h limit [] ms m s m' s') {fuel : Nat}
    (hfuel : ms.length < fuel) : m.run h limit fuel s = some (m', s') :=
  run_eq_some_iff.mpr ⟨_, hfuel, hp.path, move_eq_none_iff.mpr hp.finished⟩

/-- **A cancelled run stops.** A host has cancelled the run and does not take that back.

* Whatever a machine works on, it finishes after a number of moves that the size of the tree bounds.
  It carries out statements of the tree in their order and each of them at most once, and none of
  them is in the body of a loop or of a function. On the way no function and no round of a loop is
  entered and no scope is opened; where it comes to a loop, a prompt or the entry of a function, it
  ends with a failure there, with the variables that it had.
* So every run of a program and every call of a function comes to an outcome, and a call to a
  failure. -/
theorem cancelled_run_stops (hi : h.Irrevocable) (hs : h.cancelled s = true) :
    (∀ limit base c sc functions calls, ∃ ms m' s',
      Passes h limit base ms ⟨c, base, sc, functions, calls⟩ s m' s'
      ∧ ms.length ≤ c.load
      ∧ (ms.filterMap executed?).Sublist c.pending
      ∧ (∀ m ∈ m' :: ms, (∃ k, m.frames = k ++ base ∧ ∀ f ∈ k, f.isOutside = true)
        ∧ m.scopes.outer = sc.outer ∧ m.calls = calls)
      ∧ ∀ m ∈ ms, (∃ f, m.Barred limit f) →
        ∃ f, m.Barred limit f ∧ m' = { m with control := .failed f, frames := base })
    ∧ (∀ (i : Interpreter) (p : Program),
      ∃ out, i.run h (4 * sizeOf p.body + 1) (some p) s = some out)
    ∧ ∀ (i : Interpreter) (name : Text) (args : List Value),
      ∃ out f, i.call h 2 name args s = some out ∧ out.failure = some f := by
  have hwork : ∀ limit base c sc functions calls, ∃ ms m' s',
      Passes h limit base ms ⟨c, base, sc, functions, calls⟩ s m' s' ∧ ms.length ≤ c.load
      ∧ (ms.filterMap executed?).Sublist c.pending
      ∧ ∀ m ∈ m' :: ms, Outside base ⟨c, base, sc, functions, calls⟩ m := by
    intro limit base c sc functions calls
    have hstart : Outside base ⟨c, base, sc, functions, calls⟩ ⟨c, base, sc, functions, calls⟩ :=
      ⟨⟨[], rfl, by simp⟩, rfl, rfl⟩
    simpa using exists_passes hi limit base _ _ _ [] s hs rfl (by simp) hstart rfl
  refine ⟨?_, ?_, ?_⟩
  · intro limit base c sc functions calls
    obtain ⟨ms, m', s', hp, hlength, hexecuted, hall⟩ := hwork limit base c sc functions calls
    refine ⟨ms, m', s', hp, hlength, hexecuted, ?_, ?_⟩
    · exact fun m hm => ⟨(hall m hm).frames, (hall m hm).outer, (hall m hm).calls⟩
    · exact hp.barred hi hs (k := []) (by simp) rfl
  · intro i p
    obtain ⟨ms, m', s', hp, hlength, -⟩ := hwork i.limit [] (.block p.body) .empty [] 0
    have hr := hp.run_eq (Nat.lt_succ_of_le hlength)
    exact ⟨_, congrArg (Option.map _) hr⟩
  · intro i name args
    obtain ⟨ms, m', s', hp, hlength, -⟩ := hwork i.limit [] (.enter none name args) i.scopes
      i.functions 0
    have hr := hp.run_eq (Nat.lt_succ_of_le hlength)
    obtain ⟨e, he⟩ := hp.of_enter hi hs
    exact ⟨_, e, congrArg (Option.map _) hr, by rw [he]; rfl⟩

/-- A function that calls itself, and a branch that asks and then counts for ever. -/
def restless : Program :=
  ⟨none,
    [.function none [0x66] [] [.call none [0x66] []],
     .choose none [.mk none (.string none []) [.call none [0x66] []],
       .mk none .absent [.print none (.string none [0x61]),
         .count none (some ⟨none, [0x6e], .string none [0x78], true⟩) (.string none [0x79]) none
           [.input none [0x6d]]]]]⟩

/-- The run prints, binds the counter and stops before the first round of the loop. -/
theorem cancelled_run_stops_restless :
    (Queue.host {}).Irrevocable
      ∧ ∃ out, (Interpreter.new none).run (Queue.host {}) (4 * sizeOf restless.body + 1)
          (some restless) ⟨[], [], true⟩ = some out
        ∧ out.failure = some .canceled ∧ out.host.events = [.output [0x61]]
        ∧ out.interpreter.scopes = ⟨[([0x6e], .string [0x78])], []⟩ := by
  have hi := Queue.irrevocable_host {}
  have hrun : ∃ out, (Interpreter.new none).run (Queue.host {}) 30 (some restless) ⟨[], [], true⟩
        = some out
      ∧ out.failure = some .canceled ∧ out.host.events = [.output [0x61]]
      ∧ out.interpreter.scopes = ⟨[([0x6e], .string [0x78])], []⟩ := ⟨_, rfl, rfl, rfl, rfl⟩
  obtain ⟨out, ho⟩ := (cancelled_run_stops (s := ⟨[], [], true⟩) hi rfl).2.1 (.new none) restless
  obtain ⟨out', ho', hout'⟩ := hrun
  obtain rfl : out = out' := Interpreter.run_unique ho ho'
  exact ⟨hi, out, ho, hout'⟩

end Machine

end LessonLang
