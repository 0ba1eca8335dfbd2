import Mathlib
import LessonLang.Proofs.Grammar.Layout
import LessonLang.Proofs.Machine.Path
import LessonLang.Proofs.Table

/-!
The layout of a program does not matter to its runs.

* `Machine.bare` takes the layout off everything that a machine still has to do, off the functions
  that it knows and off the failure that it came to.
* `Machine.step_bare`: a step of the bare machine is the bare step. There is one lemma for each kind
  of work. From it the same follows for moves (`move_bare`), runs (`run_bare`) and paths
  (`Path.of_bare`).
* `layout_irrelevant`: so programs that are equal up to their layout, and up to the way in which
  assignments are written, make the same of every host.
-/

namespace LessonLang

variable {σ : Type} {d : Bool → Bool}

/-! ### Machines without layout -/

/-- A failure without the place of the node at fault. -/
def Failure.bare : Failure → Failure
  | .runtime e => .runtime { e with place := .unset }
  | f => f

/-- A loop without its layout. -/
def Loop.bare (d : Bool → Bool) (l : Loop) : Loop :=
  ⟨l.condition.bare, l.body.map (Stmt.bare d), l.increment.map (Option.map (Assignment.bare d))⟩

/-- A function without its layout. -/
def Function.bare (d : Bool → Bool) (f : Function) : Function :=
  ⟨.blank, f.name, f.params, f.body.map (Stmt.bare d)⟩

/-- What is to be done, without its layout. -/
def Control.bare (d : Bool → Bool) : Control → Control
  | .eval e => .eval e.bare
  | .exec s => .exec (s.bare d)
  | .block body => .block (body.map (Stmt.bare d))
  | .assign a => .assign (a.map (Assignment.bare d))
  | .branches bs => .branches (bs.map (Branch.bare d))
  | .round l => .round (l.bare d)
  | .enter _ name args => .enter .blank name args
  | .failed f => .failed f.bare
  | .await name => .await name
  | .value v => .value v
  | .done => .done
  | .returned v => .returned v

/-- What is left to do, without its layout. -/
def Frame.bare (d : Bool → Bool) : Frame → Frame
  | .right _ op e => .right .blank op e.bare
  | .operate _ op left => .operate .blank op left
  | .arguments _ name ready rest => .arguments .blank name ready (rest.map Expr.bare)
  | .select taken rest => .select (taken.map (Stmt.bare d)) (rest.map (Branch.bare d))
  | .test l => .test (l.bare d)
  | .body l => .body (l.bare d)
  | .again l => .again (l.bare d)
  | .sequence rest => .sequence (rest.map (Stmt.bare d))
  | .call => .call
  | .bind name => .bind name
  | .print => .print
  | .ignore => .ignore
  | .giveBack => .giveBack

/-- **A machine without layout.** -/
def Machine.bare (d : Bool → Bool) (m : Machine) : Machine :=
  ⟨m.control.bare d, m.frames.map (Frame.bare d), m.scopes, m.functions.image (Function.bare d),
    m.calls⟩

namespace Machine

variable (m : Machine) (k : List Frame)

/-! ### One step -/

lemma stepEval_bare (e : Expr) :
    (m.bare d).stepEval (k.map (Frame.bare d)) e.bare = (m.stepEval k e).map (bare d) := by
  cases e with
  | identifier s name =>
      simp only [Expr.bare, stepEval, show (m.bare d).scopes = m.scopes from rfl]
      cases m.scopes.lookup? name <;> rfl
  | call s name args =>
      have hhas : (m.bare d).functions.has name = m.functions.has name := by
        simp only [bare, Table.has, Table.get?_image, Option.isSome_map]
      rw [Expr.bare, Expr.bareAll_eq, stepEval.eq_def, stepEval.eq_def]
      dsimp only
      rw [hhas]
      split_ifs
      · cases args <;> rfl
      · rfl
  | _ => simp only [Expr.bare, stepEval]; rfl

lemma stepExec_bare (s : Stmt) :
    (m.bare d).stepExec (k.map (Frame.bare d)) (s.bare d) = (m.stepExec k s).map (bare d) := by
  cases s with
  | function span name params body =>
      simp only [Stmt.bare, Stmt.bareAll_eq, stepExec, Step.map, bare]
      rw [← Table.set_image]
      rfl
  | giveBack span e => cases e <;> simp only [Stmt.bare, Expr.bare, stepExec] <;> rfl
  | call span name args =>
      simp only [Stmt.bare, stepExec, resume, Step.map, bare, Control.bare, Expr.bare,
        Expr.bareAll_eq, List.map_cons]
      rfl
  | loop span c body => simp only [Stmt.bare, Stmt.bareAll_eq, stepExec]; rfl
  | count span init c inc body => simp only [Stmt.bare, Stmt.bareAll_eq, stepExec]; rfl
  | _ => simp only [Stmt.bare, Branch.bareAll_eq, stepExec]; rfl

lemma stepEnter_bare (limit : Nat) (c : Bool) (span : Span) (name : Text) (args : List Value) :
    (m.bare d).stepEnter limit c (k.map (Frame.bare d)) .blank name args
      = (m.stepEnter limit c k span name args).map (bare d) := by
  simp only [stepEnter, show (m.bare d).functions.get? name = _ from Table.get?_image ..]
  cases m.functions.get? name with
  | none => rfl
  | some f =>
      simp only [Option.map_some, show (m.bare d).calls = m.calls from rfl]
      split_ifs <;> rfl

lemma leave_bare (c : Control) :
    (m.bare d).leave (c.bare d) (k.map (Frame.bare d)) = (m.leave c k).map (bare d) := by
  rw [leave.eq_def, leave.eq_def, show (m.bare d).scopes = m.scopes from rfl]
  cases m.scopes.pop? with
  | some s => rfl
  | none => cases c <;> rfl

lemma stepValue_bare (v : Value) :
    (m.bare d).stepValue v (k.map (Frame.bare d)) = (m.stepValue v k).map (bare d) := by
  cases k with
  | nil => rfl
  | cons f k =>
      rw [List.map_cons]
      cases f with
      | operate span op left =>
          simp only [Frame.bare, stepValue]
          cases applyOperator op left v <;> rfl
      | arguments span name ready rest => cases rest <;> rfl
      | select taken rest =>
          simp only [Frame.bare, stepValue]
          split_ifs <;> rfl
      | test l =>
          simp only [Frame.bare, stepValue]
          split_ifs <;> rfl
      | _ => rfl

lemma stepDone_bare :
    (m.bare d).stepDone (k.map (Frame.bare d)) = (m.stepDone k).map (bare d) := by
  cases k with
  | nil => rfl
  | cons f k =>
      rw [List.map_cons]
      cases f with
      | body l =>
          obtain ⟨condition, body, increment⟩ := l
          cases increment <;> rfl
      | call => exact leave_bare m k (.value .undefined)
      | _ => rfl

lemma stepReturned_bare (v : Value) :
    (m.bare d).stepReturned v (k.map (Frame.bare d)) = (m.stepReturned v k).map (bare d) := by
  cases k with
  | nil => rfl
  | cons f k =>
      rw [List.map_cons]
      cases f with
      | call => exact leave_bare m k (.value v)
      | _ => rfl

lemma stepFailed_bare (f : Failure) :
    (m.bare d).stepFailed f.bare (k.map (Frame.bare d)) = (m.stepFailed f k).map (bare d) := by
  cases k with
  | nil => rfl
  | cons g k =>
      rw [List.map_cons]
      cases g with
      | call => exact leave_bare m k (.failed f)
      | _ => rfl

/-- **A step without layout** is the step, without layout. -/
lemma step_bare (limit : Nat) (c : Bool) :
    (m.bare d).step limit c = (m.step limit c).map (bare d) := by
  obtain ⟨control, k, scopes, functions, calls⟩ := m
  cases control with
  | eval e => exact stepEval_bare _ k e
  | exec s => exact stepExec_bare _ k s
  | block body => cases body <;> rfl
  | assign a => cases a <;> rfl
  | branches bs =>
      cases bs with
      | nil => rfl
      | cons b bs =>
          simp only [bare, Control.bare, List.map_cons]
          cases b with
          | absent => simp only [Branch.bare, step]; rfl
          | mk span c body =>
              cases c <;> simp only [Branch.bare, Stmt.bareAll_eq, Expr.bare, step, resume,
                Step.map, bare, Control.bare, List.map_cons, Frame.bare]
  | round l => cases c <;> rfl
  | enter span name args => exact stepEnter_bare _ k limit c span name args
  | await name => rfl
  | value v => exact stepValue_bare _ k v
  | done => exact stepDone_bare _ k
  | returned v => exact stepReturned_bare _ k v
  | failed f => exact stepFailed_bare _ k f

/-! ### Moves and runs -/

lemma looks_bare : (m.bare d).looks = m.looks := by
  obtain ⟨control, k, scopes, functions, calls⟩ := m
  cases control <;> rfl

lemma answer_bare (c : Bool) (a : Answer) :
    (m.bare d).answer c a = (m.answer c a).bare d := by
  obtain ⟨control, k, scopes, functions, calls⟩ := m
  cases control with
  | await name =>
      cases a with
      | error fault => rfl
      | ok text => cases c <;> rfl
  | _ => rfl

/-- **A move without layout** takes the host where the move takes it. -/
lemma move_bare (h : Host σ) (limit : Nat) (s : σ) :
    (m.bare d).move h limit s = (m.move h limit s).map (Prod.map (bare d) id) := by
  simp only [move, hostAt, looks_bare, step_bare]
  cases m.step limit (h.cancelled (if m.looks then h.elapse s else s)) with
  | ask name m₁ => simp only [Step.map, answer_bare]; rfl
  | _ => rfl

variable {m} {m' : Machine} {h : Host σ} {limit : Nat}

/-- Machines that are equal up to their layout move together. -/
lemma exists_move_of_bare {m₁ : Machine} {s s₁ : σ} (hbare : m.bare d = m'.bare d)
    (hm : m.move h limit s = some (m₁, s₁)) :
    ∃ m₁', m'.move h limit s = some (m₁', s₁) ∧ m₁.bare d = m₁'.bare d := by
  have hmove := (move_bare m h limit s).symm.trans (hbare ▸ move_bare m' h limit s)
  rw [hm, Option.map_some] at hmove
  obtain ⟨⟨m₁', s₁'⟩, hm', heq⟩ := Option.map_eq_some_iff.mp hmove.symm
  obtain ⟨hmachine, rfl⟩ := Prod.mk.inj heq
  exact ⟨m₁', hm', hmachine.symm⟩

/-- **Machines that are equal up to their layout** go along the same path. -/
lemma Path.of_bare {n : Nat} {m₁ : Machine} {s s₁ : σ} (hp : Path h limit n m s m₁ s₁)
    (hbare : m.bare d = m'.bare d) :
    ∃ m₁', Path h limit n m' s m₁' s₁ ∧ m₁.bare d = m₁'.bare d := by
  induction hp generalizing m' with
  | refl m s => exact ⟨m', .refl m' s, hbare⟩
  | step hm _ ih =>
      obtain ⟨m₂, hm₂, hbare₂⟩ := exists_move_of_bare hbare hm
      obtain ⟨m₁', hp', hend⟩ := ih hbare₂
      exact ⟨m₁', .step hm₂ hp', hend⟩

/-- Their runs end together. -/
lemma exists_run_of_bare {fuel : Nat} {m₁ : Machine} {s s₁ : σ} (hbare : m.bare d = m'.bare d)
    (hr : m.run h limit fuel s = some (m₁, s₁)) :
    ∃ m₁', m'.run h limit fuel s = some (m₁', s₁) ∧ m₁.bare d = m₁'.bare d := by
  obtain ⟨n, hn, hp, hend⟩ := run_eq_some_iff.mp hr
  obtain ⟨m₁', hp', hbare₁⟩ := hp.of_bare hbare
  refine ⟨m₁', run_eq_some_iff.mpr ⟨n, hn, hp', ?_⟩, hbare₁⟩
  have hmove := (move_bare m₁ h limit s₁).symm.trans (hbare₁ ▸ move_bare m₁' h limit s₁)
  rw [hend] at hmove
  exact Option.map_eq_none_iff.mp hmove.symm

lemma failure?_bare (m : Machine) : (m.bare d).failure? = m.failure?.map Failure.bare := by
  obtain ⟨control, k, scopes, functions, calls⟩ := m
  cases control <;> rfl

lemma result?_bare (m : Machine) : (m.bare d).result? = m.result? := by
  obtain ⟨control, k, scopes, functions, calls⟩ := m
  cases control <;> rfl

end Machine

/-! ### Programs -/

/-- **Outcomes that agree** up to layout: the hosts have seen the same, the variables have the same
values, and the failures differ at most in their places. -/
structure Interpreter.Outcome.Alike (d : Bool → Bool) (o o' : Outcome σ) : Prop where
  host : o.host = o'.host
  scopes : o.interpreter.scopes = o'.interpreter.scopes
  value : o.value = o'.value
  failure : o.failure.map Failure.bare = o'.failure.map Failure.bare
  functions : o.interpreter.functions.image (Function.bare d)
    = o'.interpreter.functions.image (Function.bare d)

lemma Machine.ofProgram_bare (p : Program) :
    (Machine.ofProgram p).bare d = Machine.ofProgram (p.bare d) := rfl

/-- Runs of programs that are equal up to their layout. -/
lemma Interpreter.run_alike {p q : Program} (hpq : p.bare d = q.bare d) (i : Interpreter)
    (h : Host σ) (fuel : Nat) (s : σ) :
    Option.Rel (Outcome.Alike d) (i.run h fuel (some p) s) (i.run h fuel (some q) s) := by
  have hbare : (Machine.ofProgram p).bare d = (Machine.ofProgram q).bare d := by
    rw [Machine.ofProgram_bare, hpq, Machine.ofProgram_bare]
  rw [run, run, finish, finish]
  cases hr : (Machine.ofProgram p).run h i.limit fuel s with
  | some r =>
      obtain ⟨m, s'⟩ := r
      obtain ⟨m', hr', hend⟩ := Machine.exists_run_of_bare hbare hr
      have hscopes := congrArg Machine.scopes hend
      have hfunctions := congrArg Machine.functions hend
      have hvalue : m.result? = m'.result? := by
        rw [← Machine.result?_bare (d := d), hend, Machine.result?_bare]
      have hfailure : m.failure?.map Failure.bare = m'.failure?.map Failure.bare := by
        rw [← Machine.failure?_bare (d := d), hend, Machine.failure?_bare]
      rw [hr']
      exact .some ⟨rfl, hscopes, hvalue, hfailure, hfunctions⟩
  | none =>
      cases hr' : (Machine.ofProgram q).run h i.limit fuel s with
      | none => exact .none
      | some r =>
          obtain ⟨m, hm, -⟩ := Machine.exists_run_of_bare hbare.symm hr'
          rw [hr] at hm
          exact absurd hm (by simp)

/-- **Neither layout nor the spelling of declarations matters.** Source texts whose tokens agree in
kind, spelling and value spell programs that are equal up to the places of their nodes, or none for
the same reason. Programs that are equal up to those places, and up to the marks of declarations,
take every host through the same states, with the same scopes at each moment, and end alike, if
they do. -/
theorem layout_irrelevant :
    (∀ (src src' : Text) (ts us : List Token), tokenize src = .ok ts → tokenize src' = .ok us →
        List.Forall₂ Token.Alike ts us →
        (∃ p q, Program.ofSource src = .ok p ∧ Program.ofSource src' = .ok q
            ∧ p.bare id = q.bare id)
          ∨ ∃ e e', Program.ofSource src = .error (.parse e)
            ∧ Program.ofSource src' = .error (.parse e')
            ∧ e.expected = e'.expected ∧ e.detail = e'.detail
            ∧ e.found.kind = e'.found.kind ∧ e.found.text = e'.found.text)
      ∧ ∀ p q : Program, p.bare (fun _ => false) = q.bare (fun _ => false) →
          ∀ (σ : Type) (h : Host σ) (i : Interpreter) (s : σ),
            (∀ fuel, Option.Rel (Interpreter.Outcome.Alike fun _ => false)
              (i.run h fuel (some p) s) (i.run h fuel (some q) s))
            ∧ ∀ n m s', Machine.Path h i.limit n (.ofProgram p) s m s' →
                ∃ m', Machine.Path h i.limit n (.ofProgram q) s m' s' ∧ m'.scopes = m.scopes := by
  refine ⟨fun src src' ts us => Program.ofSource_alike, fun p q hpq σ h i s => ⟨?_, ?_⟩⟩
  · exact fun fuel => Interpreter.run_alike hpq i h fuel s
  · intro n m s' hp
    have hbare : (Machine.ofProgram p).bare (fun _ => false)
        = (Machine.ofProgram q).bare fun _ => false := by
      rw [Machine.ofProgram_bare, hpq, Machine.ofProgram_bare]
    obtain ⟨m', hp', hend⟩ := hp.of_bare hbare
    have hscopes := congrArg Machine.scopes hend
    exact ⟨m', hp', hscopes.symm⟩

/-- An assignment of a variable that has no value, over three lines. -/
def spreadSource : Text := utf8 "nomoshkar dada\nx = y;\njachchhi dada"

/-- The same in one line. -/
def denseSource : Text := utf8 "nomoshkar dada x=y; jachchhi dada"

/-- The program of the first text. -/
def spreadProgram : Program :=
  ⟨some ⟨1, 1⟩, [.assign ⟨some ⟨2, 1⟩, utf8 "x", .identifier (some ⟨2, 5⟩) (utf8 "y"), false⟩]⟩

/-- The same with a declaration, somewhere else. -/
def declaringProgram : Program :=
  ⟨some ⟨3, 1⟩, [.assign ⟨some ⟨4, 1⟩, utf8 "x", .identifier (some ⟨4, 18⟩) (utf8 "y"), true⟩]⟩

/-- The two texts spell one program, and with a declaration it fails for the same reason. -/
theorem layout_irrelevant_declaration :
    (∃ p q, Program.ofSource spreadSource = .ok p ∧ Program.ofSource denseSource = .ok q
        ∧ p.bare id = q.bare id)
      ∧ ∃ out out', (Interpreter.new none).run (Queue.host {}) 20 (some spreadProgram)
          (Queue.start {} []) = some out
        ∧ (Interpreter.new none).run (Queue.host {}) 20 (some declaringProgram)
          (Queue.start {} []) = some out'
        ∧ out.failure = some (.runtime ⟨.unknownVariable (utf8 "y"), ⟨2, 5⟩⟩)
        ∧ out'.failure = some (.runtime ⟨.unknownVariable (utf8 "y"), ⟨4, 18⟩⟩)
        ∧ out.host.events = out'.host.events
        ∧ out.interpreter.scopes = out'.interpreter.scopes := by
  obtain ⟨hsources, hruns⟩ := layout_irrelevant
  constructor
  · have htokens : ∃ ts us, tokenize spreadSource = .ok ts ∧ tokenize denseSource = .ok us
        ∧ List.Forall₂ Token.Alike ts us := by
      refine ⟨_, _, by cbv, by cbv, ?_⟩
      repeat constructor
    obtain ⟨ts, us, hts, hus, halike⟩ := htokens
    have hp : Program.ofSource spreadSource = .ok spreadProgram := by cbv
    obtain h | ⟨e, e', he, -⟩ := hsources _ _ ts us hts hus halike
    · exact h
    · rw [hp] at he
      exact absurd he (by simp)
  · have hends : ∃ out out', (Interpreter.new none).run (Queue.host {}) 20 (some spreadProgram)
          (Queue.start {} []) = some out
        ∧ (Interpreter.new none).run (Queue.host {}) 20 (some declaringProgram)
          (Queue.start {} []) = some out'
        ∧ out.failure = some (.runtime ⟨.unknownVariable (utf8 "y"), ⟨2, 5⟩⟩)
        ∧ out'.failure = some (.runtime ⟨.unknownVariable (utf8 "y"), ⟨4, 18⟩⟩) :=
      ⟨_, _, rfl, rfl, rfl, rfl⟩
    obtain ⟨out, out', hout, hout', hfailure, hfailure'⟩ := hends
    have hbare : spreadProgram.bare (fun _ => false) = declaringProgram.bare fun _ => false := by
      simp [Program.bare, spreadProgram, declaringProgram, Stmt.bare, Assignment.bare, Expr.bare]
    have halike := (hruns _ _ hbare Queue (Queue.host {}) (Interpreter.new none)
      (Queue.start {} [])).1 20
    rw [hout, hout'] at halike
    obtain ⟨hhost, hscopes, -⟩ : Interpreter.Outcome.Alike _ out out' := by
      cases halike with
      | some h => exact h
    exact ⟨out, out', hout, hout', hfailure, hfailure', by rw [hhost], hscopes⟩

end LessonLang
