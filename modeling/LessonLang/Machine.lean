import LessonLang.Machine.Operator

/-!
The machine that runs programs.

A `Machine` works on one node at a time, its `Control`, and keeps what is left to do in a stack of
`Frame`s. `Machine.step` does one small piece of work; it never loops, so that a run is a chain of
steps that a host may stop, watch or answer between any two of them.

* A step that prints or asks says so, and the host acts on it (`Step`).
* Whether the run was cancelled is looked up at the head of every loop round, at the entry of every
  function and behind every answer, and nowhere else.
* A function body runs in a scope of its own, which is closed however the body ends.
-/

namespace LessonLang

/-- A loop: its condition, its body and, for a counting loop, the assignment after each round. -/
structure Loop where
  condition : Expr
  body : List Stmt
  increment : Option (Option Assignment)

/-- What the machine is about to do. -/
inductive Control where
  /-- evaluate an expression -/
  | eval (e : Expr)
  /-- carry out a statement -/
  | exec (s : Stmt)
  /-- carry out statements in order -/
  | block (body : List Stmt)
  /-- carry out an assignment, which may be missing from the tree -/
  | assign (a : Option Assignment)
  /-- look for the first branch to take -/
  | branches (bs : List Branch)
  /-- start a round of a loop -/
  | round (l : Loop)
  /-- enter a function -/
  | enter (span : Span) (name : Text) (args : List Value)
  /-- wait for the answer to a prompt -/
  | await (name : Text)
  /-- an expression has this value -/
  | value (v : Value)
  /-- a statement is done -/
  | done
  /-- a statement returns this value from the function around it -/
  | returned (v : Value)
  /-- the run fails -/
  | failed (f : Failure)

/-- What is left to do once the control above it has come to an end. -/
inductive Frame where
  /-- evaluate the right operand -/
  | right (span : Span) (operator : Text) (e : Expr)
  /-- apply the operator to the left operand and the value -/
  | operate (span : Span) (operator : Text) (left : Value)
  /-- evaluate the other arguments, then enter the function -/
  | arguments (span : Span) (name : Text) (ready : List Value) (rest : List Expr)
  /-- leave the function -/
  | call
  /-- bind the value -/
  | bind (name : Text)
  /-- print the value -/
  | print
  /-- take the branch or go on with the others -/
  | select (body : List Stmt) (rest : List Branch)
  /-- run the body or leave the loop -/
  | test (l : Loop)
  /-- finish the round -/
  | body (l : Loop)
  /-- start the next round -/
  | again (l : Loop)
  /-- carry out the statements that follow -/
  | sequence (rest : List Stmt)
  /-- drop the value -/
  | ignore
  /-- return the value -/
  | giveBack

/-- A running program. `calls` counts the functions entered and not yet left. -/
structure Machine where
  control : Control
  frames : List Frame
  scopes : Scopes
  functions : Table Function
  calls : Nat

/-- The outcome of one step. -/
inductive Step where
  | next (m : Machine)
  /-- prints a text -/
  | emit (text : Text) (m : Machine)
  /-- asks for the value of a variable; the machine waits for the answer -/
  | ask (name : Text) (m : Machine)
  /-- there is nothing left to do -/
  | halt

/-- The bindings a function starts with: arguments in order, `undefined` for those that are missing;
those that are left over are dropped. -/
def Function.bindings (f : Function) (args : List Value) : Table Value :=
  let values := args ++ List.replicate f.params.length .undefined
  Table.ofList (f.params.zip values)

namespace Machine

/-- Goes on with `c` under the frames `k`. -/
def resume (m : Machine) (c : Control) (k : List Frame) : Step :=
  .next { m with control := c, frames := k }

/-- Fails because of a node. -/
def fail (m : Machine) (cause : Cause) (span : Span) (k : List Frame) : Step :=
  m.resume (.failed (.ofNode cause span)) k

/-- Starts on an expression. -/
def stepEval (m : Machine) (k : List Frame) : Expr → Step
  | .absent => m.fail .missingExpression none k
  | .number _ x => m.resume (.value (.number x)) k
  | .string _ t => m.resume (.value (.string t)) k
  | .identifier s name =>
    match m.scopes.lookup? name with
    | some v => m.resume (.value v) k
    | none => m.fail (.unknownVariable name) s k
  | .binary s op l r => m.resume (.eval l) (.right s op r :: k)
  | .call s name args =>
    if m.functions.has name then
      match args with
      | [] => m.resume (.enter s name []) k
      | e :: rest => m.resume (.eval e) (.arguments s name [] rest :: k)
    else m.fail (.unknownFunction name) s k

/-- Starts on a statement. -/
def stepExec (m : Machine) (k : List Frame) : Stmt → Step
  | .absent => m.fail .missingStatement none k
  | .assign a => m.resume (.assign (some a)) k
  | .print _ e => m.resume (.eval e) (.print :: k)
  | .input _ name => .ask name { m with control := .await name, frames := k }
  | .choose _ bs => m.resume (.branches bs) k
  | .loop _ c body => m.resume (.round ⟨c, body, none⟩) k
  | .count _ init c inc body => m.resume (.assign init) (.again ⟨c, body, some inc⟩ :: k)
  | .function s name params body =>
    .next { m with
      control := .done, frames := k, functions := m.functions.set name ⟨s, name, params, body⟩ }
  | .call s name args => m.resume (.eval (.call s name args)) (.ignore :: k)
  | .giveBack _ .absent => m.resume (.returned .undefined) k
  | .giveBack _ e => m.resume (.eval e) (.giveBack :: k)

/-- Enters a function, unless it is unknown, the calls are nested too deep or the run was
cancelled. -/
def stepEnter (m : Machine) (limit : Nat) (cancelled : Bool) (k : List Frame) (span : Span)
    (name : Text) (args : List Value) : Step :=
  match m.functions.get? name with
  | none => m.fail (.unknownFunction name) span k
  | some f =>
    if limit ≤ m.calls then m.fail (.depthExceeded name) span k
    else if cancelled then m.resume (.failed .canceled) k
    else .next { m with
      control := .block f.body, frames := .call :: k,
      scopes := m.scopes.push (f.bindings args), calls := m.calls + 1 }

/-- Leaves a function and goes on with `c`. -/
def leave (m : Machine) (c : Control) (k : List Frame) : Step :=
  match m.scopes.pop? with
  | some s => .next { m with control := c, frames := k, scopes := s, calls := m.calls - 1 }
  | none =>
    match c with
    | .failed f => m.resume (.failed f) k
    | _ => m.resume (.failed .globalScope) k

/-- Hands a value to the frame that waits for it. -/
def stepValue (m : Machine) (v : Value) : List Frame → Step
  | [] => .halt
  | .right s op e :: k => m.resume (.eval e) (.operate s op v :: k)
  | .operate s op l :: k =>
    match applyOperator op l v with
    | .ok r => m.resume (.value r) k
    | .error c => m.fail c s k
  | .arguments s name ready [] :: k => m.resume (.enter s name (ready ++ [v])) k
  | .arguments s name ready (e :: rest) :: k =>
    m.resume (.eval e) (.arguments s name (ready ++ [v]) rest :: k)
  | .bind name :: k =>
    .next { m with control := .done, frames := k, scopes := m.scopes.define name v }
  | .print :: k => .emit v.shown { m with control := .done, frames := k }
  | .select body rest :: k =>
    if v.truthy then m.resume (.block body) k else m.resume (.branches rest) k
  | .test l :: k => if v.truthy then m.resume (.block l.body) (.body l :: k) else m.resume .done k
  | .ignore :: k => m.resume .done k
  | .giveBack :: k => m.resume (.returned v) k
  | _ :: k => m.resume (.value v) k

/-- Goes on behind a statement that is done. -/
def stepDone (m : Machine) : List Frame → Step
  | [] => .halt
  | .sequence rest :: k => m.resume (.block rest) k
  | .body l :: k =>
    match l.increment with
    | none => m.resume (.round l) k
    | some a => m.resume (.assign a) (.again l :: k)
  | .again l :: k => m.resume (.round l) k
  | .call :: k => m.leave (.value .undefined) k
  | _ :: k => m.resume .done k

/-- Carries a returned value out to the call it belongs to. -/
def stepReturned (m : Machine) (v : Value) : List Frame → Step
  | [] => .halt
  | .call :: k => m.leave (.value v) k
  | _ :: k => m.resume (.returned v) k

/-- Carries a failure out of everything, closing the scopes on the way. -/
def stepFailed (m : Machine) (f : Failure) : List Frame → Step
  | [] => .halt
  | .call :: k => m.leave (.failed f) k
  | _ :: k => m.resume (.failed f) k

/-- One step. `limit` bounds the nesting of calls, and `cancelled` says whether the run was cancelled
by now. -/
def step (m : Machine) (limit : Nat) (cancelled : Bool) : Step :=
  match m.control with
  | .eval e => m.stepEval m.frames e
  | .exec s => m.stepExec m.frames s
  | .block [] => m.resume .done m.frames
  | .block (s :: rest) => m.resume (.exec s) (.sequence rest :: m.frames)
  | .assign none => m.fail .missingDeclaration none m.frames
  | .assign (some a) => m.resume (.eval a.value) (.bind a.name :: m.frames)
  | .branches [] => m.resume .done m.frames
  | .branches (.absent :: rest) => m.resume (.branches rest) m.frames
  | .branches (.mk _ .absent body :: _) => m.resume (.block body) m.frames
  | .branches (.mk _ c body :: rest) => m.resume (.eval c) (.select body rest :: m.frames)
  | .round l =>
    if cancelled then m.resume (.failed .canceled) m.frames
    else m.resume (.eval l.condition) (.test l :: m.frames)
  | .enter s name args => m.stepEnter limit cancelled m.frames s name args
  | .await name => .ask name m
  | .value v => m.stepValue v m.frames
  | .done => m.stepDone m.frames
  | .returned v => m.stepReturned v m.frames
  | .failed f => m.stepFailed f m.frames

/-- The next step looks up whether the run was cancelled. -/
def looks (m : Machine) : Bool :=
  match m.control with
  | .round _ | .enter .. => true
  | _ => false

/-- An answer to a prompt. -/
abbrev Answer := Except InputFault Text

/-- Takes the answer to the prompt that the machine waits for. A cancelled run does not use it. -/
def answer (m : Machine) (cancelled : Bool) (a : Answer) : Machine :=
  match m.control with
  | .await name =>
    match a with
    | .error fault => { m with control := .failed (.input name fault) }
    | .ok text =>
      if cancelled then { m with control := .failed .canceled }
      else { m with control := .done, scopes := m.scopes.define name (.string text) }
  | _ => m

/-- A machine about to run a program in fresh scopes. -/
def ofProgram (p : Program) : Machine := ⟨.block p.body, [], .empty, [], 0⟩

/-- The failure that a machine came to, if any. -/
def failure? (m : Machine) : Option Failure :=
  match m.control with
  | .failed f => some f
  | _ => none

/-- The value that a machine came to, if any. -/
def result? (m : Machine) : Option Value :=
  match m.control with
  | .value v | .returned v => some v
  | _ => none

end Machine

/-- The text of the prompt for a variable. -/
def promptText (name : Text) : Text := utf8 "Enter value for " ++ name ++ utf8 ":"

end LessonLang
