import LessonLang.Proofs.Machine.Path
import LessonLang.Proofs.Table

/-!
How work nests.

Above the frames `base` that are none of its business, the machine works on an expression or on a
statement. This module says what that does to the scopes, at every moment of the work and however
it ends.

* A frame waits for a value or for the end of a statement, and comes to one or the other itself.
  `Linked` says that a stack of frames fits together in this respect.
* `Nested` is the invariant: the frames above `base` are linked, a scope is open for every call
  among them, the scopes around the innermost one of the start are untouched, and that one has
  only been rebound (`Rebound`), or not even that if the work was on an expression.
* `Nested.move`: every move of unfinished work keeps it. A statement can only bind a name outside
  of all calls if the work itself is on a statement (`Linked.eq_of_openCalls`).
-/

namespace LessonLang

variable {σ : Type}

/-! ### What frames wait for -/

/-- What there is to do: find a value, or carry out a statement. -/
inductive Task where
  | value
  | statement

/-- What a control is about; a failure is about anything. -/
def Control.task? : Control → Option Task
  | .eval _ | .enter .. | .value _ => some .value
  | .failed _ => none
  | _ => some .statement

namespace Frame

/-- What a frame waits for. -/
def takes : Frame → Task
  | .call | .sequence _ | .body _ | .again _ => .statement
  | _ => .value

/-- What a frame comes to. -/
def gives : Frame → Task
  | .right .. | .operate .. | .arguments .. | .call => .value
  | _ => .statement

/-- The number of scopes that a frame closes. -/
def callCount : Frame → Nat
  | .call => 1
  | _ => 0

end Frame

/-- **Linked frames**: the first one waits for `t`, each waits for what the one before it comes
to, and the last one comes to `u`. -/
def Linked (u : Task) : Task → List Frame → Prop
  | t, [] => t = u
  | t, f :: k => f.takes = t ∧ Linked u f.gives k

/-- The number of calls that have not been left. -/
def openCalls : List Frame → Nat
  | [] => 0
  | f :: k => f.callCount + openCalls k

/-- Without a call in between, a statement is part of nothing but a statement. -/
lemma Linked.eq_of_openCalls {u : Task} {k : List Frame} (hk : Linked u .statement k)
    (h0 : openCalls k = 0) : u = .statement := by
  induction k with
  | nil => exact hk.symm
  | cons f k ih =>
      obtain ⟨ht, hk⟩ := hk
      rw [openCalls, Nat.add_eq_zero_iff] at h0
      cases f with
      | sequence | body | again => exact ih hk h0.2
      | call => exact absurd h0.1 (by simp [Frame.callCount])
      | _ => exact absurd ht (by simp [Frame.takes])

/-! ### What happens to scopes -/

/-- **What work may do to the innermost scope**: nothing to find a value, and bindings to carry
out a statement. -/
def Rebound : Task → Table Value → Table Value → Prop
  | .value, t, t' => t' = t
  | .statement, t, t' => ∃ bs, t' = t.rebind bs

lemma Rebound.refl (u : Task) (t : Table Value) : Rebound u t t := by
  cases u with
  | value => rfl
  | statement => exact ⟨[], rfl⟩

lemma Rebound.set {t t' : Table Value} (h : Rebound .statement t t') (name : Text) (v : Value) :
    Rebound .statement t (t'.set name v) := by
  obtain ⟨bs, rfl⟩ := h
  exact ⟨bs ++ [(name, v)], by simp [Table.rebind]⟩

/-- **The scopes of work** that started in `sc` and has `n` calls open: one scope for each of them
above the innermost one of the start. -/
def Opened (sc : Scopes) (u : Task) (n : Nat) (now : Scopes) : Prop :=
  ∃ opened inner, now.tables = opened ++ inner :: sc.outer ∧ opened.length = n
    ∧ Rebound u sc.inner inner

namespace Opened

variable {sc now : Scopes} {u : Task} {n : Nat}

lemma start (sc : Scopes) (u : Task) : Opened sc u 0 sc :=
  ⟨[], sc.inner, rfl, rfl, Rebound.refl u sc.inner⟩

lemma push (h : Opened sc u n now) (t : Table Value) : Opened sc u (n + 1) (now.push t) := by
  obtain ⟨opened, inner, hnow, hn, hr⟩ := h
  refine ⟨t :: opened, inner, ?_, by simp [hn], hr⟩
  rw [List.cons_append, ← hnow]
  rfl

/-- The scope of an open call can be closed. -/
lemma pop (h : Opened sc u (n + 1) now) : ∃ s, now.pop? = some s ∧ Opened sc u n s := by
  obtain ⟨opened, inner, hnow, hn, hr⟩ := h
  obtain ⟨t, opened, rfl⟩ := List.exists_cons_of_length_eq_add_one hn
  rw [List.cons_append] at hnow
  obtain ⟨-, houter⟩ := List.cons.inj hnow
  obtain ⟨t', rest, hrest⟩ : ∃ t' rest, opened ++ inner :: sc.outer = t' :: rest := by
    cases opened <;> exact ⟨_, _, rfl⟩
  refine ⟨⟨t', rest⟩, ?_, opened, inner, hrest.symm, Nat.succ.inj hn, hr⟩
  rw [Scopes.pop?, houter, hrest]

lemma define (h : Opened sc u n now) (hu : n = 0 → u = .statement) (name : Text) (v : Value) :
    Opened sc u n (now.define name v) := by
  obtain ⟨opened, inner, hnow, hn, hr⟩ := h
  cases opened with
  | nil =>
      obtain ⟨hinner, houter⟩ := List.cons.inj hnow
      obtain rfl := hu hn.symm
      refine ⟨[], inner.set name v, ?_, hn, hr.set name v⟩
      rw [← hinner, List.nil_append, ← houter]
      rfl
  | cons t opened =>
      rw [List.cons_append] at hnow
      obtain ⟨hinner, houter⟩ := List.cons.inj hnow
      refine ⟨t.set name v :: opened, inner, ?_, hn, hr⟩
      rw [← hinner, List.cons_append, ← houter]
      rfl

/-- When no call is open, the scopes around the innermost one are those of the start. -/
lemma finish (h : Opened sc u 0 now) : now.outer = sc.outer ∧ Rebound u sc.inner now.inner := by
  obtain ⟨opened, inner, hnow, hn, hr⟩ := h
  obtain rfl := List.length_eq_zero_iff.mp hn
  obtain ⟨hinner, houter⟩ := List.cons.inj hnow
  exact ⟨houter, hinner ▸ hr⟩

lemma depth (h : Opened sc u n now) : now.depth = n + sc.depth := by
  obtain ⟨opened, inner, hnow, hn, -⟩ := h
  have hlen := congrArg List.length hnow
  simp only [Scopes.tables, List.length_cons, List.length_append, hn] at hlen
  rw [Scopes.depth, Scopes.depth, hlen]

end Opened

/-! ### The invariant -/

/-- **The scopes and the count of calls** of work that started in the scopes `sc` with `calls` calls
open, for the task `u`, and has opened `n` more. -/
structure Standing (limit : Nat) (sc : Scopes) (calls : Nat) (u : Task) (n : Nat) (m : Machine) :
    Prop where
  opened : Opened sc u n m.scopes
  calls_eq : m.calls = calls + n
  calls_le : m.calls ≤ max calls limit

/-- **Work above the frames `base`.** -/
def Nested (limit : Nat) (base : List Frame) (sc : Scopes) (calls : Nat) (u : Task) (m : Machine) :
    Prop :=
  ∃ t k, m.frames = k ++ base ∧ Linked u t k ∧ (∀ t' ∈ m.control.task?, t' = t)
    ∧ Standing limit sc calls u (openCalls k) m

lemma Nested.start {limit calls : Nat} {base : List Frame} {sc : Scopes} {u : Task} {c : Control}
    (hc : c.task? = some u) (functions : Table Function) :
    Nested limit base sc calls u ⟨c, base, sc, functions, calls⟩ :=
  ⟨u, [], rfl, rfl, by simp [hc], .start sc u, rfl, le_max_left _ _⟩

namespace Standing

variable {limit calls n : Nat} {base k : List Frame} {sc : Scopes} {u t : Task} {m : Machine}

/-- Going on under the same frames. -/
lemma resume (h : Standing limit sc calls u (openCalls k) m) (hk : Linked u t k) {c : Control}
    (hc : c.task? = some t) : (m.resume c (k ++ base)).All (Nested limit base sc calls u) :=
  ⟨t, k, rfl, hk, by simp [hc], h.opened, h.calls_eq, h.calls_le⟩

/-- Going on under a further frame, for what that frame waits for. -/
lemma cover (h : Standing limit sc calls u (openCalls k) m) (hk : Linked u t k) {f : Frame}
    {c : Control} (hf : f.callCount = 0) (hgives : f.gives = t) (hc : c.task? = some f.takes) :
    (m.resume c (f :: (k ++ base))).All (Nested limit base sc calls u) := by
  subst hgives
  have hn : openCalls (f :: k) = openCalls k := by rw [openCalls, hf, Nat.zero_add]
  refine ⟨f.takes, f :: k, rfl, ⟨rfl, hk⟩, by simp [hc], ?_⟩
  rw [hn]
  exact ⟨h.opened, h.calls_eq, h.calls_le⟩

/-- Going on with a failure, which may come where anything is waited for. -/
lemma giveUp (h : Standing limit sc calls u (openCalls k) m) (hk : Linked u t k) (e : Failure) :
    (m.resume (.failed e) (k ++ base)).All (Nested limit base sc calls u) :=
  ⟨t, k, rfl, hk, by simp [Control.task?], h.opened, h.calls_eq, h.calls_le⟩

lemma fail (h : Standing limit sc calls u (openCalls k) m) (hk : Linked u t k) (cause : Cause)
    (span : Span) : (m.fail cause span (k ++ base)).All (Nested limit base sc calls u) :=
  h.giveUp hk _

lemma define (h : Standing limit sc calls u (openCalls k) m) (hk : Linked u .statement k)
    (name : Text) (v : Value) :
    Nested limit base sc calls u
      { m with control := .done, frames := k ++ base, scopes := m.scopes.define name v } :=
  ⟨.statement, k, rfl, hk, by simp [Control.task?],
    h.opened.define hk.eq_of_openCalls name v, h.calls_eq, h.calls_le⟩

/-! ### Steps -/

lemma stepEval (h : Standing limit sc calls u (openCalls k) m) (hk : Linked u .value k)
    (e : Expr) : (m.stepEval (k ++ base) e).All (Nested limit base sc calls u) := by
  cases e with
  | absent => exact h.fail hk _ _
  | number span x => exact h.resume hk rfl
  | string span t => exact h.resume hk rfl
  | identifier span name =>
      rw [Machine.stepEval]
      split
      · exact h.resume hk rfl
      · exact h.fail hk _ _
  | binary span op l r => exact h.cover hk rfl rfl rfl
  | call span name args =>
      rw [Machine.stepEval.eq_def]
      dsimp only
      split
      · cases args with
        | nil => exact h.resume hk rfl
        | cons e rest => exact h.cover hk rfl rfl rfl
      · exact h.fail hk _ _

lemma stepExec (h : Standing limit sc calls u (openCalls k) m) (hk : Linked u .statement k)
    (s : Stmt) : (m.stepExec (k ++ base) s).All (Nested limit base sc calls u) := by
  cases s with
  | absent => exact h.fail hk _ _
  | assign a => exact h.resume hk rfl
  | print span e => exact h.cover hk rfl rfl rfl
  | input span name => exact ⟨rfl, h.resume hk (c := .await name) rfl⟩
  | choose span bs => exact h.resume hk rfl
  | loop span c body => exact h.resume hk rfl
  | count span init c inc body => exact h.cover hk rfl rfl rfl
  | function span name params body =>
      exact ⟨.statement, k, rfl, hk, by simp [Control.task?], h.opened, h.calls_eq, h.calls_le⟩
  | call span name args => exact h.cover hk rfl rfl rfl
  | giveBack span e =>
      cases e with
      | absent => exact h.resume hk rfl
      | _ => exact h.cover hk rfl rfl rfl

/-- A function is entered in a scope of its own. -/
lemma stepEnter (h : Standing limit sc calls u (openCalls k) m) (hk : Linked u .value k) (c : Bool)
    (span : Span) (name : Text) (args : List Value) :
    (m.stepEnter limit c (k ++ base) span name args).All (Nested limit base sc calls u) := by
  rw [Machine.stepEnter]
  split
  · exact h.fail hk _ _
  · split_ifs with hlimit
    · exact h.fail hk _ _
    · exact h.giveUp hk _
    · refine ⟨.statement, .call :: k, rfl, ⟨rfl, hk⟩, by simp [Control.task?], ?_⟩
      have hn : openCalls (.call :: k) = openCalls k + 1 := Nat.add_comm _ _
      rw [hn]
      refine ⟨h.opened.push _, ?_, ?_⟩
      · rw [h.calls_eq, Nat.add_assoc]
      · show m.calls + 1 ≤ max calls limit
        exact le_max_of_le_right (by omega)

/-- A function is left with its scope closed. -/
lemma leave (h : Standing limit sc calls u (openCalls k + 1) m) (hk : Linked u .value k)
    {c : Control} (hc : ∀ t' ∈ c.task?, t' = .value) :
    (m.leave c (k ++ base)).All (Nested limit base sc calls u) := by
  obtain ⟨s, hs, hopened⟩ := h.opened.pop
  rw [Machine.leave.eq_def, hs]
  have hcalls := h.calls_eq
  refine ⟨.value, k, rfl, hk, hc, hopened, ?_, ?_⟩
  · show m.calls - 1 = calls + openCalls k
    omega
  · exact (Nat.sub_le _ _).trans h.calls_le

/-- A frame that waits for a value closes no scope. -/
lemma of_takes_value {f : Frame} (h : Standing limit sc calls u (openCalls (f :: k)) m)
    (hf : f.takes = .value) : Standing limit sc calls u (openCalls k) m := by
  have hn : f.callCount = 0 := by cases f <;> simp_all [Frame.takes, Frame.callCount]
  rw [openCalls, hn, Nat.zero_add] at h
  exact h

lemma stepValue {f : Frame} (h : Standing limit sc calls u (openCalls (f :: k)) m)
    (hf : f.takes = .value) (hk : Linked u f.gives k) (v : Value) :
    (m.stepValue v (f :: (k ++ base))).All (Nested limit base sc calls u) := by
  replace h := h.of_takes_value hf
  cases f with
  | right span op e => exact h.cover hk rfl rfl rfl
  | operate span op left =>
      rw [Machine.stepValue]
      split
      · exact h.resume hk rfl
      · exact h.fail hk _ _
  | arguments span name ready rest =>
      cases rest with
      | nil => exact h.resume hk rfl
      | cons e rest => exact h.cover hk rfl rfl rfl
  | bind name => exact h.define hk name v
  | print => exact h.resume hk (c := .done) rfl
  | select body rest =>
      rw [Machine.stepValue]
      split_ifs <;> exact h.resume hk rfl
  | test l =>
      rw [Machine.stepValue]
      split_ifs
      · exact h.cover hk rfl rfl rfl
      · exact h.resume hk rfl
  | ignore => exact h.resume hk rfl
  | giveBack => exact h.resume hk rfl
  | call | sequence | body | again => exact absurd hf (by simp [Frame.takes])

/-- The frames that wait for a statement: one of them leaves a function, the others close no
scope. -/
lemma of_takes_statement {f : Frame} (h : Standing limit sc calls u (openCalls (f :: k)) m)
    (hf : f.takes = .statement) (hk : Linked u f.gives k) :
    (f = .call ∧ Standing limit sc calls u (openCalls k + 1) m ∧ Linked u .value k)
      ∨ (f ≠ .call ∧ Standing limit sc calls u (openCalls k) m ∧ Linked u .statement k) := by
  cases f with
  | call =>
      rw [openCalls, Nat.add_comm] at h
      exact Or.inl ⟨rfl, h, hk⟩
  | sequence | body | again =>
      rw [openCalls] at h
      simp only [Frame.callCount, Nat.zero_add] at h
      exact Or.inr ⟨by simp, h, hk⟩
  | _ => exact absurd hf (by simp [Frame.takes])

lemma stepDone {f : Frame} (h : Standing limit sc calls u (openCalls (f :: k)) m)
    (hf : f.takes = .statement) (hk : Linked u f.gives k) :
    (m.stepDone (f :: (k ++ base))).All (Nested limit base sc calls u) := by
  obtain ⟨rfl, hs, hl⟩ | ⟨hne, hs, hl⟩ := h.of_takes_statement hf hk
  · exact hs.leave hl (by simp [Control.task?])
  clear h hk hf
  cases f with
  | call => exact absurd rfl hne
  | body l =>
      rw [Machine.stepDone]
      split
      · exact hs.resume hl rfl
      · exact hs.cover hl rfl rfl rfl
  | _ => exact hs.resume hl rfl

lemma stepReturned {f : Frame} (h : Standing limit sc calls u (openCalls (f :: k)) m)
    (hf : f.takes = .statement) (hk : Linked u f.gives k) (v : Value) :
    (m.stepReturned v (f :: (k ++ base))).All (Nested limit base sc calls u) := by
  obtain ⟨rfl, hs, hl⟩ | ⟨hne, hs, hl⟩ := h.of_takes_statement hf hk
  · exact hs.leave hl (by simp [Control.task?])
  clear h hk hf
  cases f with
  | call => exact absurd rfl hne
  | _ => exact hs.resume hl rfl

/-- A failure closes the scopes of the calls that it is carried out of. -/
lemma stepFailed {f : Frame} (h : Standing limit sc calls u (openCalls (f :: k)) m)
    (hk : Linked u f.gives k) (e : Failure) :
    (m.stepFailed e (f :: (k ++ base))).All (Nested limit base sc calls u) := by
  cases f with
  | call =>
      rw [openCalls, Nat.add_comm] at h
      exact h.leave hk (by simp [Control.task?])
  | _ =>
      rw [openCalls] at h
      simp only [Frame.callCount, Nat.zero_add] at h
      exact h.giveUp hk e

end Standing

namespace Nested

variable {limit calls : Nat} {base : List Frame} {sc : Scopes} {u : Task} {m : Machine}

/-- Work that is settled and unfinished hands over to a frame of its own. -/
lemma exists_frame {k : List Frame} (hm : m.frames = k ++ base) (hset : m.control.settled = true)
    (hopen : ¬m.Finished base) : ∃ f k', k = f :: k' := by
  cases k with
  | nil => exact absurd ⟨hset, hm⟩ hopen
  | cons f k' => exact ⟨f, k', rfl⟩

/-- **Every step of unfinished work** keeps the invariant. -/
lemma step (h : Nested limit base sc calls u m)
    (hopen : ¬m.Finished base) (c : Bool) :
    (m.step limit c).All (Nested limit base sc calls u) := by
  obtain ⟨t, k, hm, hk, ht, hs⟩ := h
  obtain ⟨control, frames, scopes, functions, depth⟩ := m
  obtain rfl : frames = k ++ base := hm
  cases control with
  | eval e =>
      obtain rfl := ht _ rfl
      exact hs.stepEval hk e
  | exec s =>
      obtain rfl := ht _ rfl
      exact hs.stepExec hk s
  | block body =>
      obtain rfl := ht _ rfl
      cases body with
      | nil => exact hs.resume hk rfl
      | cons s rest => exact hs.cover hk rfl rfl rfl
  | assign a =>
      obtain rfl := ht _ rfl
      cases a with
      | none => exact hs.fail hk _ _
      | some a => exact hs.cover hk rfl rfl rfl
  | branches bs =>
      obtain rfl := ht _ rfl
      rw [Machine.step.eq_def]
      dsimp only
      split <;> try contradiction
      · exact hs.resume hk rfl
      · exact hs.resume hk rfl
      · exact hs.resume hk rfl
      · exact hs.cover hk rfl rfl rfl
  | round l =>
      obtain rfl := ht _ rfl
      cases c with
      | true => exact hs.giveUp hk _
      | false => exact hs.cover hk rfl rfl rfl
  | enter span name args =>
      obtain rfl := ht _ rfl
      exact hs.stepEnter hk c span name args
  | await name => exact ⟨rfl, t, k, rfl, hk, ht, hs⟩
  | value v =>
      obtain rfl := ht _ rfl
      obtain ⟨f, k, rfl⟩ := exists_frame rfl rfl hopen
      exact hs.stepValue hk.1 hk.2 v
  | done =>
      obtain rfl := ht _ rfl
      obtain ⟨f, k, rfl⟩ := exists_frame rfl rfl hopen
      exact hs.stepDone hk.1 hk.2
  | returned v =>
      obtain rfl := ht _ rfl
      obtain ⟨f, k, rfl⟩ := exists_frame rfl rfl hopen
      exact hs.stepReturned hk.1 hk.2 v
  | failed e =>
      obtain ⟨f, k, rfl⟩ := exists_frame rfl rfl hopen
      exact hs.stepFailed hk.2 e

/-- An answer binds a name or fails. -/
lemma answer (h : Nested limit base sc calls u m) (c : Bool) (a : Machine.Answer) :
    Nested limit base sc calls u (m.answer c a) := by
  obtain ⟨t, k, hm, hk, ht, hs⟩ := h
  rw [Machine.answer.eq_def]
  split
  next name hname =>
    obtain rfl := ht .statement (by rw [hname]; rfl)
    rw [hm]
    split
    · exact hs.giveUp hk _
    · split_ifs
      · exact hs.giveUp hk _
      · exact hs.define hk name _
  next => exact ⟨t, k, hm, hk, ht, hs⟩

/-- **Every move of unfinished work** keeps the invariant. -/
lemma move {h : Host σ} {m' : Machine} {s s' : σ} (hn : Nested limit base sc calls u m)
    (hopen : ¬m.Finished base)
    (hm : m.move h limit s = some (m', s')) : Nested limit base sc calls u m' := by
  refine (hn.step hopen _).move ?_ hm
  intro _ m₁ a _ _ _ hn₁
  exact hn₁.answer _ a

/-- Work is finished with no call open. -/
lemma finish (h : Nested limit base sc calls u m) (hbase : m.frames = base) :
    m.scopes.outer = sc.outer ∧ Rebound u sc.inner m.scopes.inner := by
  obtain ⟨t, k, hm, -, -, hs⟩ := h
  have hk : k = [] := by
    rw [hbase] at hm
    exact List.self_eq_append_left.mp hm
  rw [hk] at hs
  exact hs.opened.finish

end Nested

end LessonLang
