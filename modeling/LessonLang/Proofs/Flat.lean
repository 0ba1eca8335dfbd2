import LessonLang.Run
import LessonLang.Proofs.Table

/-!
Evaluation in a flat environment.

The machine of `LessonLang.Machine` keeps a scope for every open call and looks names up from the
inside out. The evaluator here keeps one table and no stack, and is written in direct style:
expressions and statements are evaluated by recursion, and what a statement returns or how it
fails is what the recursion comes to.

* Assignments and answers to prompts bind names in the one table.
* A call runs the body in the table of the caller, overridden by the bindings of the parameters,
  and the caller goes on in its own table whatever the body came to (`Flat.within`).
* Recursion is bounded by `fuel`. An evaluation for which it does not suffice is `exhausted`,
  which tells nothing about the program but how far it had come.
-/

namespace LessonLang

/-- What an evaluation works on: the variables, the functions and the host. -/
structure Flat (σ : Type) where
  env : Table Value
  functions : Table Function
  host : σ

/-- The bindings of parameters to arguments, in order: `undefined` for arguments that are missing;
those that are left over are dropped. -/
def Function.parameters (f : Function) (args : List Value) : List (Text × Value) :=
  f.params.zip (args ++ List.replicate f.params.length .undefined)

namespace Flat

/-- Why an evaluation stops before its end. -/
inductive Stop where
  | failed (f : Failure)
  | exhausted

/-- What a statement comes to. -/
inductive Flow where
  | done
  | returned (v : Value)

/-- What a call comes to by the end of its body. -/
def Flow.value : Flow → Value
  | .done => .undefined
  | .returned v => v

/-- An evaluation: it changes what it works on and comes to an end or stops. -/
abbrev Eval (σ α : Type) := ExceptT Stop (StateM (Flat σ)) α

variable {σ α : Type}

/-! ### Elementary evaluations -/

/-- Fails because of a node. -/
def fail (cause : Cause) (span : Span) : Eval σ α := throw (.failed (.ofNode cause span))

/-- Whether the run is cancelled by now. -/
def look (h : Host σ) : Eval σ Bool := do
  modify fun st => { st with host := h.elapse st.host }
  return h.cancelled (← get).host

/-- The value of a variable. -/
def lookup (span : Span) (name : Text) : Eval σ Value := do
  match (← get).env.get? name with
  | some v => return v
  | none => fail (.unknownVariable name) span

/-- Binds a variable. -/
def define (name : Text) (v : Value) : Eval σ Unit :=
  modify fun st => { st with env := st.env.set name v }

/-- Prints a text. -/
def emit (h : Host σ) (text : Text) : Eval σ Unit :=
  modify fun st => { st with host := h.emit text st.host }

/-- Asks for the value of a variable. -/
def ask (h : Host σ) (name : Text) : Eval σ Machine.Answer := fun st =>
  let (a, s) := h.ask (promptText name) st.host
  (.ok a, { st with host := s })

/-- Takes the answer, unless there is none or the run was cancelled. -/
def answer (h : Host σ) (name : Text) : Machine.Answer → Eval σ Unit
  | .error fault => throw (.failed (.input name fault))
  | .ok text => do
    if h.cancelled (← get).host then throw (.failed .canceled) else define name (.string text)

/-- Declares a function. -/
def declare (f : Function) : Eval σ Unit :=
  modify fun st => { st with functions := st.functions.set f.name f }

/-- **Evaluates in another environment**, and restores the one from before whatever it comes to. -/
def within (bindings : List (Text × Value)) (x : Eval σ α) : Eval σ α := fun st =>
  let (r, st') := x { st with env := st.env.rebind bindings }
  (r, { st' with env := st.env })

/-! ### Parts of statements, given the evaluators of expressions and statements -/

section parts

variable (eval : Expr → Eval σ Value) (exec : Stmt → Eval σ Flow)

/-- Statements in order, up to one that returns. -/
def block : List Stmt → Eval σ Flow
  | [] => return .done
  | st :: rest => do
    match ← exec st with
    | .done => block rest
    | .returned v => return .returned v

/-- The first branch whose condition holds. -/
def branches : List Branch → Eval σ Flow
  | [] => return .done
  | .absent :: rest => branches rest
  | .mk _ .absent body :: _ => block exec body
  | .mk _ c body :: rest => do
    if (← eval c).truthy then block exec body else branches rest

/-- An assignment, which may be missing from the tree. -/
def assign : Option Assignment → Eval σ Unit
  | none => fail .missingDeclaration none
  | some a => do define a.name (← eval a.value)

end parts

/-! ### The evaluator -/

variable (h : Host σ) (limit : Nat)

mutual

/-- **The value of an expression**, inside of `d` calls. -/
def eval : (fuel : Nat) → (d : Nat) → Expr → Eval σ Value
  | 0, _, _ => throw .exhausted
  | n + 1, d, e =>
    match e with
    | .absent => fail .missingExpression none
    | .number _ x => return .number x
    | .string _ t => return .string t
    | .identifier s name => lookup s name
    | .binary s op l r => do
      let a ← eval n d l
      let b ← eval n d r
      match applyOperator op a b with
      | .ok v => return v
      | .error c => fail c s
    | .call s name args => do
      if (← get).functions.has name then
        call n d s name (← args.mapM (eval n d))
      else fail (.unknownFunction name) s

/-- **A call** with the given arguments: the body, in the environment of the caller with the
parameters bound on top. -/
def call : (fuel : Nat) → (d : Nat) → Span → Text → List Value → Eval σ Value
  | 0, _, _, _, _ => throw .exhausted
  | n + 1, d, s, name, args => do
    let cancelled ← look h
    match (← get).functions.get? name with
    | none => fail (.unknownFunction name) s
    | some f =>
      if limit ≤ d then fail (.depthExceeded name) s
      else if cancelled then throw (.failed .canceled)
      else return (← within (f.parameters args) (block (exec n (d + 1)) f.body)).value

/-- **A statement.** -/
def exec : (fuel : Nat) → (d : Nat) → Stmt → Eval σ Flow
  | 0, _, _ => throw .exhausted
  | n + 1, d, st =>
    match st with
    | .absent => fail .missingStatement none
    | .assign a => do assign (eval n d) (some a); return .done
    | .print _ e => do emit h (← eval n d e).shown; return .done
    | .input _ name => do answer h name (← ask h name); return .done
    | .choose _ bs => branches (eval n d) (exec n d) bs
    | .loop _ c body => rounds n d ⟨c, body, none⟩
    | .count _ init c inc body => do
      assign (eval n d) init
      rounds n d ⟨c, body, some inc⟩
    | .function s name params body => do declare ⟨s, name, params, body⟩; return .done
    | .call s name args => do
      let _ ← eval n d (.call s name args)
      return .done
    | .giveBack _ .absent => return .returned .undefined
    | .giveBack _ e => return .returned (← eval n d e)

/-- **The rounds of a loop.** -/
def rounds : (fuel : Nat) → (d : Nat) → Loop → Eval σ Flow
  | 0, _, _ => throw .exhausted
  | n + 1, d, l => do
    if ← look h then throw (.failed .canceled)
    else if (← eval n d l.condition).truthy then
      match ← block (exec n d) l.body with
      | .returned v => return .returned v
      | .done =>
        match l.increment with
        | none => rounds n d l
        | some a => do
          assign (eval n d) a
          rounds n d l
    else return .done

end

/-! ### Programs -/

/-- Runs a program on a host, from an empty environment. -/
def run (fuel : Nat) (p : Program) (s : σ) : Except Stop Flow × Flat σ :=
  block (exec h limit fuel 0) p.body ⟨[], [], s⟩

/-- The outcome of a run, unless the fuel was used up. -/
def outcome (limit : Nat) : Except Stop Flow × Flat σ → Option (Interpreter.Outcome σ)
  | (.error .exhausted, _) => none
  | (.error (.failed f), st) => some ⟨some f, none, ⟨limit, ⟨st.env, []⟩, st.functions⟩, st.host⟩
  | (.ok .done, st) => some ⟨none, none, ⟨limit, ⟨st.env, []⟩, st.functions⟩, st.host⟩
  | (.ok (.returned v), st) => some ⟨none, some v, ⟨limit, ⟨st.env, []⟩, st.functions⟩, st.host⟩

end Flat

end LessonLang
