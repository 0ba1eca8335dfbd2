import Mathlib
import LessonLang.Proofs.Machine.Discipline
import LessonLang.Proofs.Tree.Source

/-!
Safety: how programs of source texts can fail.

* `Failure.Allowed` lists the ways: cancellation, an answer that the host refused, and five kinds
  of runtime errors, at places of the tree.
* `Machine.Whole` is the invariant. All that a machine still has to do is whole, so are the bodies
  of its functions, no value that it holds is absent, and if it fails then in one of these ways.
* `Machine.Whole.step`: every step keeps it, provided that the scope of every open call can be
  closed, which scope discipline ensures.
-/

namespace LessonLang

variable {σ : Type}

/-! ### Operators -/

/-- Why a node of a parsed program cannot be carried out. -/
def runtimeReasons : List Text :=
  [utf8 "unknown variable", utf8 "unknown function", utf8 "not a number", utf8 "division by zero",
   utf8 "call depth exceeded"]

namespace Operator

/-- An operation does not have an absent value, and fails for want of numbers or of a divisor. -/
def Sane : Except Cause Value → Prop
  | .ok v => v ≠ .absent
  | .error c => c.reason ∈ runtimeReasons

/-- Operands that do not fit are one of the known reasons. -/
lemma operands_error {a b : Value} {c : Cause} (h : operands a b = .error c) :
    c.reason ∈ runtimeReasons := by
  rw [operands] at h
  split at h
  · obtain rfl := Except.error.inj h
    simp [runtimeReasons, Cause.reason]
  · split at h
    · obtain rfl := Except.error.inj h
      simp [runtimeReasons, Cause.reason]
    · exact absurd h (by simp)

/-- Arithmetic gives a value or fails for a known reason. -/
lemma arithmetic_sane (f : Float → Float → Float) (a b : Value) : Sane (arithmetic f a b) := by
  rw [arithmetic]
  cases h : operands a b with
  | error c => exact operands_error h
  | ok xy => exact Value.noConfusion

/-- So does a comparison. -/
lemma order_sane (o : Ordered) (a b : Value) :
    Sane ((compareValues a b).map fun c => .bool (o.holds c)) := by
  rw [compareValues.eq_def]
  split
  · exact Value.noConfusion
  · cases h : operands _ _ with
    | error c => exact operands_error h
    | ok xy => exact Value.noConfusion

/-- So does every operator. -/
lemma apply_sane (o : Operator) (a b : Value) : Sane (o.apply a b) := by
  cases o with
  | add =>
      rw [apply]
      split_ifs
      · exact Value.noConfusion
      · exact arithmetic_sane _ a b
  | sub => exact arithmetic_sane _ a b
  | mul => exact arithmetic_sane _ a b
  | div =>
      rw [apply]
      split
      next => split_ifs <;> simp [Sane, runtimeReasons, Cause.reason]
      next h => exact operands_error h
  | order o => exact order_sane o a b
  | equal => exact Value.noConfusion
  | notEqual => exact Value.noConfusion

end Operator

/-- So does the operator that a text spells. -/
lemma applyOperator_sane {op : Text} (hop : (Operator.ofText? op).isSome = true) (a b : Value) :
    Operator.Sane (applyOperator op a b) := by
  obtain ⟨o, ho⟩ := Option.isSome_iff_exists.mp hop
  rw [applyOperator, ho]
  exact o.apply_sane a b

/-! ### The invariant -/

/-- **The allowed failures** on a host, with runtime errors at places with the property `P`. -/
def Failure.Allowed (P : Place → Prop) (h : Host σ) : Failure → Prop
  | .runtime e => e.cause.reason ∈ runtimeReasons ∧ P e.place
  | .canceled => ∃ s, h.cancelled s = true
  | .input name fault => ∃ s s', h.ask (promptText name) s = (.error fault, s')
  | .globalScope => False

/-- A whole assignment that is there. -/
def Assignment.IsWhole (P : Place → Prop) (a : Option Assignment) : Prop :=
  ∃ a', a = some a' ∧ a'.Whole P

/-- A whole loop. -/
structure Loop.Whole (P : Place → Prop) (l : Loop) : Prop where
  condition : l.condition.Whole P
  body : ∀ st ∈ l.body, st.Whole P
  increment : ∀ a ∈ l.increment, Assignment.IsWhole P a

/-- A whole control. -/
def Control.Whole (P : Place → Prop) (h : Host σ) : Control → Prop
  | .eval e => e.Whole P
  | .exec st => st.Whole P
  | .block body => ∀ st ∈ body, st.Whole P
  | .assign a => Assignment.IsWhole P a
  | .branches bs => ∀ b ∈ bs, b.Whole P
  | .round l => l.Whole P
  | .enter s _ args => Span.Whole P s ∧ ∀ v ∈ args, v ≠ .absent
  | .await _ | .done => True
  | .value v | .returned v => v ≠ .absent
  | .failed f => f.Allowed P h

/-- A whole frame. -/
def Frame.Whole (P : Place → Prop) : Frame → Prop
  | .right s op e => Span.Whole P s ∧ (Operator.ofText? op).isSome = true ∧ e.Whole P
  | .operate s op _ => Span.Whole P s ∧ (Operator.ofText? op).isSome = true
  | .arguments s _ ready rest =>
    Span.Whole P s ∧ (∀ v ∈ ready, v ≠ .absent) ∧ ∀ e ∈ rest, e.Whole P
  | .select chosen rest => (∀ st ∈ chosen, st.Whole P) ∧ ∀ b ∈ rest, b.Whole P
  | .test l | .body l | .again l => l.Whole P
  | .sequence rest => ∀ st ∈ rest, st.Whole P
  | .call | .bind _ | .print | .ignore | .giveBack => True

namespace Machine

/-- **Whole machines.** -/
structure Whole (P : Place → Prop) (h : Host σ) (m : Machine) : Prop where
  control : m.control.Whole P h
  frames : ∀ f ∈ m.frames, f.Whole P
  scopes : m.scopes.All (· ≠ .absent)
  functions : m.functions.All fun f => ∀ st ∈ f.body, st.Whole P

namespace Whole

variable {P : Place → Prop} {h : Host σ} {m : Machine} {k : List Frame} {c : Control} {limit : Nat}

/-- A whole machine that resumes in a whole place is whole. -/
lemma resume (hm : m.Whole P h) (hc : c.Whole P h) (hk : ∀ f ∈ k, f.Whole P) :
    (m.resume c k).All (Whole P h) :=
  ⟨hc, hk, hm.scopes, hm.functions⟩

/-- Going on under a further frame. -/
lemma cover (hm : m.Whole P h) (hc : c.Whole P h) {f : Frame} (hf : f.Whole P)
    (hk : ∀ f ∈ k, f.Whole P) : (m.resume c (f :: k)).All (Whole P h) :=
  hm.resume hc (List.forall_mem_cons.mpr ⟨hf, hk⟩)

/-- A machine that fails for a known reason at a known place is whole. -/
lemma fail (hm : m.Whole P h) {cause : Cause} {s : Span} (hs : Span.Whole P s)
    (hk : ∀ f ∈ k, f.Whole P)
    (hcause : cause.reason ∈ runtimeReasons) :
    (m.fail cause s k).All (Whole P h) := by
  obtain ⟨p, rfl, hp⟩ := hs
  exact hm.resume ⟨hcause, hp⟩ hk

/-- **To evaluate an expression** keeps a machine whole. -/
lemma stepEval (hm : m.Whole P h) {e : Expr} (he : e.Whole P) (hk : ∀ f ∈ k, f.Whole P) :
    (m.stepEval k e).All (Whole P h) := by
  cases he with
  | number hs => exact hm.resume Value.noConfusion hk
  | string hs => exact hm.resume Value.noConfusion hk
  | identifier hs =>
      rw [Machine.stepEval]
      split
      next v hv => exact hm.resume (hm.scopes.lookup? hv) hk
      next => exact hm.fail hs hk (by simp [runtimeReasons, Cause.reason])
  | binary hs hop hl hr => exact hm.cover (c := .eval _) hl ⟨hs, hop, hr⟩ hk
  | @call s name args hs hargs =>
      rw [Machine.stepEval.eq_def]
      dsimp only
      split
      · cases args with
        | nil => exact hm.resume ⟨hs, by simp⟩ hk
        | cons e rest =>
            obtain ⟨he, hrest⟩ := List.forall_mem_cons.mp hargs
            exact hm.cover (c := .eval _) he ⟨hs, by simp, hrest⟩ hk
      · exact hm.fail hs hk (by simp [runtimeReasons, Cause.reason])

/-- So does to carry out a statement. -/
lemma stepExec (hm : m.Whole P h) {st : Stmt} (hst : st.Whole P) (hk : ∀ f ∈ k, f.Whole P) :
    (m.stepExec k st).All (Whole P h) := by
  cases hst with
  | @assign a ha => exact hm.resume (c := .assign _) ⟨a, rfl, ha⟩ hk
  | print hs he => exact hm.cover (c := .eval _) he trivial hk
  | @input s name hs => exact ⟨rfl, hm.resume (c := .await name) trivial hk⟩
  | choose hs hbs => exact hm.resume hbs hk
  | loop hs hc hbody => exact hm.resume ⟨hc, hbody, by simp⟩ hk
  | @count s init inc c body hs hinit hc hinc hbody =>
      exact hm.cover (c := .assign _) ⟨init, rfl, hinit⟩
        ⟨hc, hbody, by simpa using ⟨inc, rfl, hinc⟩⟩ hk
  | @function s name params body hs hbody =>
      exact ⟨trivial, hk, hm.scopes, hm.functions.set name hbody⟩
  | call hs hargs => exact hm.cover (c := .eval _) (.call hs hargs) trivial hk
  | @giveBack s e hs he =>
      cases e with
      | absent => nomatch he
      | _ => exact hm.cover (c := .eval _) he trivial hk

/-- Parameters are bound to arguments or to `undefined`. -/
lemma bindings_all {f : Function} {args : List Value} (hargs : ∀ v ∈ args, v ≠ .absent) :
    (f.bindings args).All (· ≠ .absent) := by
  refine Table.All.ofList fun b hb => ?_
  obtain ⟨-, hmem⟩ := List.of_mem_zip (show (b.1, b.2) ∈ _ from hb)
  obtain hmem | hmem := List.mem_append.mp hmem
  · exact hargs _ hmem
  · rw [List.eq_of_mem_replicate hmem]
    exact Value.noConfusion

/-- So does to enter a call. -/
lemma stepEnter (hm : m.Whole P h) {cancelled : Bool} {s : Span} {name : Text} {args : List Value}
    (hcancel : cancelled = true → ∃ s, h.cancelled s = true) (hs : Span.Whole P s)
    (hargs : ∀ v ∈ args, v ≠ .absent) (hk : ∀ f ∈ k, f.Whole P) :
    (m.stepEnter limit cancelled k s name args).All (Whole P h) := by
  rw [Machine.stepEnter]
  split
  next => exact hm.fail hs hk (by simp [runtimeReasons, Cause.reason])
  next f hf =>
    split_ifs with hlimit hc
    · exact hm.fail hs hk (by simp [runtimeReasons, Cause.reason])
    · exact hm.resume (c := .failed _) (hcancel hc) hk
    · exact ⟨hm.functions.get? hf, List.forall_mem_cons.mpr ⟨trivial, hk⟩,
        hm.scopes.push (bindings_all hargs), hm.functions⟩

lemma leave (hm : m.Whole P h) (hc : c.Whole P h) (hk : ∀ f ∈ k, f.Whole P)
    (hpop : m.scopes.pop?.isSome = true) : (m.leave c k).All (Whole P h) := by
  obtain ⟨s, hs⟩ := Option.isSome_iff_exists.mp hpop
  rw [Machine.leave.eq_def, hs]
  exact ⟨hc, hk, hm.scopes.pop? hs, hm.functions⟩

/-- So does to go on with a value. -/
lemma stepValue (hm : m.Whole P h) {v : Value} (hv : v ≠ .absent) {f : Frame} (hf : f.Whole P)
    (hk : ∀ f ∈ k, f.Whole P) : (m.stepValue v (f :: k)).All (Whole P h) := by
  cases f with
  | right s op e =>
      obtain ⟨hs, hop, he⟩ := hf
      exact hm.cover (c := .eval e) he ⟨hs, hop⟩ hk
  | operate s op left =>
      have hsane := applyOperator_sane hf.2 left v
      rw [Machine.stepValue]
      split
      next r hr =>
        rw [hr] at hsane
        exact hm.resume (c := .value r) hsane hk
      next cause hr =>
        rw [hr] at hsane
        exact hm.fail hf.1 hk hsane
  | arguments s name ready rest =>
      obtain ⟨hs, hready, hrest⟩ := hf
      have hready' : ∀ w ∈ ready ++ [v], w ≠ .absent := by
        intro w hw
        obtain hw | hw := List.mem_append.mp hw
        · exact hready w hw
        · rw [List.mem_singleton.mp hw]
          exact hv
      cases rest with
      | nil => exact hm.resume (c := .enter _ _ _) ⟨hs, hready'⟩ hk
      | cons e rest =>
          obtain ⟨he, hrest⟩ := List.forall_mem_cons.mp hrest
          exact hm.cover (c := .eval e) he ⟨hs, hready', hrest⟩ hk
  | bind name => exact ⟨trivial, hk, hm.scopes.define name hv, hm.functions⟩
  | print => exact ⟨trivial, hk, hm.scopes, hm.functions⟩
  | select body rest =>
      rw [Machine.stepValue]
      split_ifs
      · exact hm.resume (c := .block body) hf.1 hk
      · exact hm.resume (c := .branches rest) hf.2 hk
  | test l =>
      rw [Machine.stepValue]
      split_ifs
      · exact hm.cover (c := .block l.body) hf.body (f := .body l) hf hk
      · exact hm.resume (c := .done) trivial hk
  | ignore => exact hm.resume (c := .done) trivial hk
  | giveBack => exact hm.resume (c := .returned v) hv hk
  | call | body | again | sequence => exact hm.resume (c := .value v) hv hk

/-- So does to go on behind a statement. -/
lemma stepDone (hm : m.Whole P h) {f : Frame} (hf : f.Whole P) (hk : ∀ f ∈ k, f.Whole P)
    (hpop : f = .call → m.scopes.pop?.isSome = true) : (m.stepDone (f :: k)).All (Whole P h) := by
  cases f with
  | sequence rest => exact hm.resume (c := .block rest) hf hk
  | body l =>
      rw [Machine.stepDone]
      split
      next => exact hm.resume (c := .round l) hf hk
      next a ha =>
        have hinc := hf.increment a (by simp [ha])
        exact hm.cover (c := .assign a) hinc (f := .again l) hf hk
  | again l => exact hm.resume (c := .round l) hf hk
  | call => exact hm.leave (c := .value .undefined) Value.noConfusion hk (hpop rfl)
  | _ => exact hm.resume (c := .done) trivial hk

/-- So does to pass a returned value on. -/
lemma stepReturned (hm : m.Whole P h) {v : Value} (hv : v ≠ .absent) {f : Frame}
    (hk : ∀ f ∈ k, f.Whole P) (hpop : f = .call → m.scopes.pop?.isSome = true) :
    (m.stepReturned v (f :: k)).All (Whole P h) := by
  cases f with
  | call => exact hm.leave (c := .value v) hv hk (hpop rfl)
  | _ => exact hm.resume (c := .returned v) hv hk

/-- So does to pass a failure on. -/
lemma stepFailed (hm : m.Whole P h) {e : Failure} (he : e.Allowed P h) {f : Frame}
    (hk : ∀ f ∈ k, f.Whole P) (hpop : f = .call → m.scopes.pop?.isSome = true) :
    (m.stepFailed e (f :: k)).All (Whole P h) := by
  cases f with
  | call => exact hm.leave (c := .failed e) he hk (hpop rfl)
  | _ => exact hm.resume (c := .failed e) he hk

/-- Looking for a branch to take. -/
lemma stepBranches (hm : m.Whole P h) {bs : List Branch} {cancelled : Bool}
    (hc : m.control = .branches bs) : (m.step limit cancelled).All (Whole P h) := by
  have hbs : ∀ b ∈ bs, b.Whole P := by
    have := hm.control
    rwa [hc] at this
  rw [Machine.step.eq_def, hc]
  cases bs with
  | nil => exact hm.resume (c := .done) trivial hm.frames
  | cons b rest =>
      obtain ⟨hb, hrest⟩ := List.forall_mem_cons.mp hbs
      cases hb with
      | @mk s c body hs hcond hbody =>
          cases c with
          | absent => exact hm.resume (c := .block body) hbody hm.frames
          | _ =>
              have hcond := hcond.resolve_left (by simp)
              exact hm.cover (c := .eval _) hcond (f := .select body rest) ⟨hbody, hrest⟩ hm.frames

/-- **Every step** of a whole machine leads to one. -/
lemma step (hm : m.Whole P h) {cancelled : Bool}
    (hcancel : cancelled = true → ∃ s, h.cancelled s = true)
    (hpop : .call ∈ m.frames → m.scopes.pop?.isSome = true) :
    (m.step limit cancelled).All (Whole P h) := by
  obtain ⟨control, frames, scopes, functions, calls⟩ := m
  have hc := hm.control
  have hk := hm.frames
  cases control with
  | eval e => exact hm.stepEval hc hk
  | exec st => exact hm.stepExec hc hk
  | block body =>
      cases body with
      | nil => exact hm.resume (c := .done) trivial hk
      | cons st rest =>
          obtain ⟨hst, hrest⟩ := List.forall_mem_cons.mp hc
          exact hm.cover (c := .exec st) hst (f := .sequence rest) hrest hk
  | assign a =>
      obtain ⟨a, rfl, ha⟩ := hc
      exact hm.cover (c := .eval _) ha.value (f := .bind _) trivial hk
  | branches bs => exact hm.stepBranches rfl
  | round l =>
      cases cancelled with
      | true => exact hm.resume (c := .failed .canceled) (hcancel rfl) hk
      | false => exact hm.cover (c := .eval _) hc.condition (f := .test l) hc hk
  | enter s name args => exact hm.stepEnter hcancel hc.1 hc.2 hk
  | await name => exact ⟨rfl, hm⟩
  | value v =>
      cases frames with
      | nil => trivial
      | cons f k =>
          obtain ⟨hf, hk⟩ := List.forall_mem_cons.mp hk
          exact hm.stepValue hc hf hk
  | done =>
      cases frames with
      | nil => trivial
      | cons f k =>
          obtain ⟨hf, hk⟩ := List.forall_mem_cons.mp hk
          exact hm.stepDone hf hk fun hcall => hpop (by simp [hcall])
  | returned v =>
      cases frames with
      | nil => trivial
      | cons f k =>
          obtain ⟨hf, hk⟩ := List.forall_mem_cons.mp hk
          exact hm.stepReturned hc hk fun hcall => hpop (by simp [hcall])
  | failed e =>
      cases frames with
      | nil => trivial
      | cons f k =>
          obtain ⟨hf, hk⟩ := List.forall_mem_cons.mp hk
          exact hm.stepFailed hc hk fun hcall => hpop (by simp [hcall])

/-- An answer of the host, whether it is used or not. -/
lemma answer (hm : m.Whole P h) {name : Text} (hname : m.control = .await name) {a : Answer}
    {s s' : σ} (hask : h.ask (promptText name) s = (a, s')) :
    (m.answer (h.cancelled s') a).Whole P h := by
  rw [Machine.answer.eq_def, hname]
  dsimp only
  split
  next fault => exact ⟨⟨s, s', hask⟩, hm.frames, hm.scopes, hm.functions⟩
  next text =>
    split_ifs with hc
    · exact ⟨⟨s', hc⟩, hm.frames, hm.scopes, hm.functions⟩
    · exact ⟨trivial, hm.frames, hm.scopes.define name Value.noConfusion, hm.functions⟩

/-- **A move keeps a machine whole**, if a scope is open for each call. -/
lemma move (hm : m.Whole P h) (hpop : .call ∈ m.frames → m.scopes.pop?.isSome = true)
    {m' : Machine} {s s' : σ} (hmove : m.move h limit s = some (m', s')) : m'.Whole P h := by
  refine (hm.step (fun hc => ⟨_, hc⟩) hpop).move ?_ hmove
  intro name m₁ a s₁ hname hask hm₁
  exact hm₁.answer hname hask

end Whole

end Machine

/-! ### Programs of source texts -/

/-- **Along a run** of a whole program the machine is whole. -/
lemma Program.Whole.of_path {P : Place → Prop} {p : Program} (hp : p.Whole P) {h : Host σ}
    {limit n : Nat} {s s' : σ} {m : Machine}
    (hpath : Machine.Path h limit n (.ofProgram p) s m s') : m.Whole P h := by
  let invariant : Machine → Prop := fun m => Nested limit [] .empty 0 .statement m ∧ m.Whole P h
  have hstart : invariant (.ofProgram p) := by
    refine ⟨Nested.start rfl _, hp.body, ?_, ?_, ?_⟩
    · simp [Machine.ofProgram]
    · simp [Machine.ofProgram, Scopes.All, Scopes.tables, Scopes.empty, Table.All]
    · simp [Machine.ofProgram, Table.All]
  have hmove : ∀ m s m' s', invariant m → m.move h limit s = some (m', s') → invariant m' := by
    intro m s m' s' hm hmove
    -- scope discipline is what makes leaving a function safe
    exact ⟨hm.1.move_nil hmove, hm.2.move (hm.1.depth_eq rfl).2.2 hmove⟩
  exact (hpath.invariant hmove hstart).2

/-- **Safety.** A program that was read from a source text, run under any bound on calls and on
any host, ends without failure or in one of the allowed ways: cancelled by the host, without an
answer of the host to a prompt, or with one of five runtime errors, at the place of a node of the
program and on a line of the text. And every value that it finds on its way is there. -/
theorem source_run_safe {src : Text} {p : Program} (hp : Program.ofSource src = .ok p)
    (i : Interpreter) (h : Host σ) :
    (∀ fuel s out, i.run h fuel (some p) s = some out → ∀ f, out.failure = some f →
      f.Allowed (fun place => 1 ≤ place.line ∧ some place ∈ p.spans) h)
    ∧ ∀ n s m s' v, Machine.Path h i.limit n (.ofProgram p) s m s' → m.control = .value v →
      v ≠ .absent := by
  have hwhole := (Program.whole_of_source hp).at_spans
  constructor
  · intro fuel s out ho f hf
    obtain ⟨m, s', hr, rfl⟩ := Interpreter.finish_eq_some ho
    obtain ⟨n, -, hpath, -⟩ := Machine.run_eq_some_iff.mp hr
    have hm := (hwhole.of_path hpath).control
    rw [Machine.failure?] at hf
    split at hf
    next g hcontrol =>
      obtain rfl := Option.some.inj hf
      rw [hcontrol] at hm
      exact hm
    next => exact absurd hf (by simp)
  · intro n s m s' v hpath hv
    have hm := (hwhole.of_path hpath).control
    rw [hv] at hm
    exact hm

/-- A source text whose program prints a variable without a value. -/
def unboundSource : Text := utf8 "nomoshkar dada\nbolo dada x;\njachchhi dada"

/-- Its program. -/
def unboundProgram : Program :=
  ⟨some ⟨1, 1⟩, [.print (some ⟨2, 1⟩) (.identifier (some ⟨2, 11⟩) (utf8 "x"))]⟩

/-- Its run, which fails at the variable. -/
theorem source_run_safe_unbound :
    Program.ofSource unboundSource = .ok unboundProgram
    ∧ ∃ out, (Interpreter.new none).run (Queue.host {}) 20 (some unboundProgram) ⟨[], [], false⟩
        = some out
      ∧ ∃ f, out.failure = some f ∧ f = .runtime ⟨.unknownVariable (utf8 "x"), ⟨2, 11⟩⟩
        ∧ f.Allowed (fun place => 1 ≤ place.line ∧ some place ∈ unboundProgram.spans)
            (Queue.host {}) := by
  have hp : Program.ofSource unboundSource = .ok unboundProgram := by cbv
  have hrun : ∃ out, (Interpreter.new none).run (Queue.host {}) 20 (some unboundProgram)
      ⟨[], [], false⟩ = some out
      ∧ out.failure = some (.runtime ⟨.unknownVariable (utf8 "x"), ⟨2, 11⟩⟩) := ⟨_, rfl, rfl⟩
  obtain ⟨out, hrun, hfailure⟩ := hrun
  exact ⟨hp, out, hrun, _, hfailure, rfl,
    (source_run_safe hp (Interpreter.new none) (Queue.host {})).1 _ _ _ hrun _ hfailure⟩

end LessonLang
