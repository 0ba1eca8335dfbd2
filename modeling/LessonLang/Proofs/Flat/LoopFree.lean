import LessonLang.Proofs.Flat.Refinement

/-!
Programs without loops come to an end.

* `Stmt.isLoopFree`: there is no loop in a statement, nor in the functions that are declared in it.
* `Flat.Plain` is the evaluator of `LessonLang.Proofs.Flat` without fuel, for everything but loops.
  It is defined by recursion on the calls that may still be nested and, among equal numbers of
  them, on the size of the tree. A call may enter a body of any size, but from one call less away
  from the bound.
* `Flat.Comes`: with enough fuel, the evaluator with fuel comes to what the one without it comes to.
  That holds as long as no function holds a loop, which is what every construct keeps; so it holds
  however functions call or redeclare one another.
* `Flat.loopFree_terminates`: every run of such a program and every call of its functions ends, and
  the outcome is the one of the evaluator without fuel.
-/

namespace LessonLang

/-! ### Trees without loops -/

mutual

/-- A statement without a loop in it, the bodies of functions included. -/
def Stmt.isLoopFree : Stmt → Bool
  | .loop .. | .count .. => false
  | .choose _ bs => Branch.areLoopFree bs
  | .function _ _ _ body => Stmt.areLoopFree body
  | _ => true

/-- Statements without a loop in them. -/
def Stmt.areLoopFree : List Stmt → Bool
  | [] => true
  | st :: rest => st.isLoopFree && Stmt.areLoopFree rest

/-- A branch without a loop in it. -/
def Branch.isLoopFree : Branch → Bool
  | .absent => true
  | .mk _ _ body => Stmt.areLoopFree body

/-- Branches without a loop in them. -/
def Branch.areLoopFree : List Branch → Bool
  | [] => true
  | b :: rest => b.isLoopFree && Branch.areLoopFree rest

end

/-- All functions of an interpreter are without loops. -/
def Interpreter.IsLoopFree (i : Interpreter) : Prop :=
  i.functions.All fun f => Stmt.areLoopFree f.body = true

/-! ### An evaluator without fuel -/

lemma Span.sizeOf_pos (s : Span) : 0 < sizeOf s := by
  cases s <;> simp

namespace Flat

namespace Plain

variable {σ : Type} (h : Host σ) (limit : Nat)

mutual

/-- **The value of an expression**, inside of `d` calls. -/
def eval (d : Nat) (e : Expr) : Eval σ Value :=
  match e with
  | .absent => fail .missingExpression none
  | .number _ x => return .number x
  | .string _ t => return .string t
  | .identifier s name => lookup s name
  | .binary s op l r => do
    let a ← eval d l
    let b ← eval d r
    match applyOperator op a b with
    | .ok v => return v
    | .error c => fail c s
  | .call s name args =>
    have : 0 < sizeOf s := Span.sizeOf_pos s
    callNamed d s name args
termination_by (limit - d, sizeOf e)
decreasing_by all_goals decreasing_with omega

/-- A call of a function by its name, if there is one, with the values of expressions. -/
def callNamed (d : Nat) (s : Span) (name : Text) (args : List Expr) : Eval σ Value := do
  if (← get).functions.has name then call d s name (← values d args)
  else fail (.unknownFunction name) s
termination_by (limit - d, sizeOf args + 1)
decreasing_by all_goals decreasing_with omega

/-- The values of expressions, in order. -/
def values (d : Nat) (es : List Expr) : Eval σ (List Value) :=
  match es with
  | [] => return []
  | e :: rest => do
    let v ← eval d e
    let vs ← values d rest
    return v :: vs
termination_by (limit - d, sizeOf es)
decreasing_by all_goals decreasing_with omega

/-- **A call** with the given arguments. The body is whatever the state holds under the name. -/
def call (d : Nat) (s : Span) (name : Text) (args : List Value) : Eval σ Value := do
  let cancelled ← look h
  match (← get).functions.get? name with
  | none => fail (.unknownFunction name) s
  | some f =>
    if _hd : limit ≤ d then fail (.depthExceeded name) s
    else if cancelled then throw (.failed .canceled)
    else return (← within (f.parameters args) (body (d + 1) f.body)).value
termination_by (limit - d, 0)
decreasing_by all_goals decreasing_with omega

/-- **A statement.** A loop is given up on. -/
def exec (d : Nat) (st : Stmt) : Eval σ Flow :=
  match st with
  | .absent => fail .missingStatement none
  | .assign ⟨_, name, e, _⟩ => do define name (← eval d e); return .done
  | .print _ e => do emit h (← eval d e).shown; return .done
  | .input _ name => do answer h name (← ask h name); return .done
  | .choose _ bs => choose d bs
  | .loop .. | .count .. => throw .exhausted
  | .function s name params body => do declare ⟨s, name, params, body⟩; return .done
  | .call s name args => do
    have : 0 < sizeOf s := Span.sizeOf_pos s
    let _ ← callNamed d s name args
    return .done
  | .giveBack _ .absent => return .returned .undefined
  | .giveBack _ e => return .returned (← eval d e)
termination_by (limit - d, sizeOf st)
decreasing_by all_goals decreasing_with omega

/-- Statements in order, up to one that returns. -/
def body (d : Nat) (sts : List Stmt) : Eval σ Flow :=
  match sts with
  | [] => return .done
  | st :: rest => do
    match ← exec d st with
    | .done => body d rest
    | .returned v => return .returned v
termination_by (limit - d, sizeOf sts)
decreasing_by all_goals decreasing_with omega

/-- The first branch whose condition holds. -/
def choose (d : Nat) (bs : List Branch) : Eval σ Flow :=
  match bs with
  | [] => return .done
  | .absent :: rest => choose d rest
  | .mk _ .absent sts :: _ => body d sts
  | .mk _ c sts :: rest => do
    if (← eval d c).truthy then body d sts else choose d rest
termination_by (limit - d, sizeOf bs)
decreasing_by all_goals decreasing_with omega

end

/-- Runs a program on a host, from an empty environment. -/
def run (p : Program) (s : σ) : Except Stop Flow × Flat σ := body h limit 0 p.body ⟨[], [], s⟩

end Plain

/-! ### Fuel that suffices -/

variable {σ α β : Type}

/-- All functions are without loops. -/
def Tame (st : Flat σ) : Prop := st.functions.All fun f => Stmt.areLoopFree f.body = true

/-- **An evaluation with enough fuel comes to what `y` comes to**, in a state in which all functions
are without loops; it leaves such a state behind, and `y` does not give up. -/
def Comes (x : Nat → Eval σ α) (y : Eval σ α) : Prop :=
  ∀ st, Tame st →
    (y st).1 ≠ .error .exhausted ∧ Tame (y st).2 ∧ ∃ n₀, ∀ n ≥ n₀, x n st = y st

/-- What runs within new bindings sees them in front of the old ones, and leaves the old ones
behind. -/
lemma within_eq (bs : List (Text × Value)) (x : Eval σ α) (st : Flat σ) :
    within bs x st = ((x { st with env := st.env.rebind bs }).1,
      { (x { st with env := st.env.rebind bs }).2 with env := st.env }) := rfl

namespace Comes

/-- An evaluation that needs no fuel. -/
lemma const {x : Eval σ α} (hx : ∀ st, (x st).1 ≠ .error .exhausted ∧ (Tame st → Tame (x st).2)) :
    Comes (fun _ => x) x :=
  fun st hst => ⟨(hx st).1, (hx st).2 hst, 0, fun _ _ => rfl⟩

lemma pure (a : α) : Comes (σ := σ) (fun _ => return a) (return a) :=
  .const fun _ => ⟨by rintro ⟨⟩, id⟩

lemma fail (cause : Cause) (span : Span) :
    Comes (σ := σ) (α := α) (fun _ => Flat.fail cause span) (Flat.fail cause span) :=
  .const fun _ => ⟨by rintro ⟨⟩, id⟩

/-- It is enough to come to an end with some more fuel. -/
lemma of_succ {x : Nat → Eval σ α} {y : Eval σ α} (hx : Comes (fun n => x (n + 1)) y) :
    Comes x y := by
  intro st hst
  obtain ⟨hend, htame, n₀, hn₀⟩ := hx st hst
  refine ⟨hend, htame, n₀ + 1, fun n hn => ?_⟩
  obtain ⟨j, rfl⟩ : ∃ j, n = j + 1 := ⟨n - 1, by omega⟩
  exact hn₀ j (by omega)

/-- An evaluation that looks at its state. -/
lemma of_get {x : Nat → Flat σ → Eval σ α} {y : Flat σ → Eval σ α}
    (hx : ∀ st, Tame st → Comes (fun n => x n st) (y st)) :
    Comes (fun n => get >>= x n) (get >>= y) :=
  fun st hst => hx st hst st hst

/-- One evaluation behind another. -/
lemma bind {x : Nat → Eval σ α} {y : Eval σ α} {x' : Nat → α → Eval σ β} {y' : α → Eval σ β}
    (hx : Comes x y) (hx' : ∀ a, Comes (fun n => x' n a) (y' a)) :
    Comes (fun n => x n >>= x' n) (y >>= y') := by
  intro st hst
  obtain ⟨hend, htame, n₀, hn₀⟩ := hx st hst
  match hy : y st with
  | (.error e, st₁) =>
      have hstop : (y >>= y') st = (.error e, st₁) := bind_of_stop hy
      rw [hy] at hend htame
      rw [hstop]
      refine ⟨fun he => hend (congrArg _ (Except.error.inj he)), htame, n₀, fun n hn => ?_⟩
      exact bind_of_stop ((hn₀ n hn).trans hy)
  | (.ok a, st₁) =>
      have hnext : (y >>= y') st = y' a st₁ := bind_of_ok hy
      rw [hy] at htame
      obtain ⟨hend', htame', n₁, hn₁⟩ := hx' a st₁ htame
      rw [hnext]
      refine ⟨hend', htame', max n₀ n₁, fun n hn => ?_⟩
      calc (x n >>= x' n) st = x' n a st₁ :=
            bind_of_ok ((hn₀ n (le_of_max_le_left hn)).trans hy)
        _ = y' a st₁ := hn₁ n (le_of_max_le_right hn)

/-- What comes within new bindings comes. -/
lemma within {x : Nat → Eval σ α} {y : Eval σ α} (hx : Comes x y) (bs : List (Text × Value)) :
    Comes (fun n => within bs (x n)) (within bs y) := by
  intro st hst
  obtain ⟨hend, htame, n₀, hn₀⟩ := hx { st with env := st.env.rebind bs } hst
  refine ⟨hend, htame, n₀, fun n hn => ?_⟩
  show Flat.within bs (x n) st = _
  rw [within_eq, within_eq, hn₀ n hn]

end Comes

/-! ### Every construct -/

variable {h : Host σ} {limit : Nat}

/-- The value of a name comes. -/
lemma comes_lookup (span : Span) (name : Text) :
    Comes (σ := σ) (fun _ => lookup span name) (lookup span name) := by
  refine .const fun st => ?_
  rw [lookup, bind_get]
  cases st.env.get? name with
  | none => exact ⟨by rintro ⟨⟩, id⟩
  | some v => exact ⟨by rintro ⟨⟩, id⟩

/-- The value of an operator comes. -/
lemma comes_operate (span : Span) (op : Text) (a b : Value) :
    Comes (σ := σ)
      (fun _ => match applyOperator op a b with
        | .ok v => (return v : Eval σ Value)
        | .error c => fail c span)
      (match applyOperator op a b with
        | .ok v => (return v : Eval σ Value)
        | .error c => fail c span) := by
  cases applyOperator op a b with
  | ok v => exact .pure v
  | error c => exact .fail c span

/-- An answer comes. -/
lemma comes_answer (name : Text) (a : Machine.Answer) :
    Comes (fun _ => answer h name a) (answer h name a) := by
  refine .const fun st => ?_
  cases a with
  | error fault => exact ⟨by rintro ⟨⟩, id⟩
  | ok text =>
      rw [answer, bind_get]
      split_ifs
      · exact ⟨by rintro ⟨⟩, id⟩
      · exact ⟨by rintro ⟨⟩, id⟩

mutual

/-- **The value of an expression comes**, whatever it calls, if all bodies are free of loops. -/
lemma comes_eval (d : Nat) (e : Expr) :
    Comes (fun n => eval h limit n d e) (Plain.eval h limit d e) := by
  refine .of_succ ?_
  cases e with
  | absent =>
      simp only [eval, Plain.eval]
      exact .fail _ _
  | number s x =>
      simp only [eval, Plain.eval]
      exact .pure _
  | string s t =>
      simp only [eval, Plain.eval]
      exact .pure _
  | identifier s name =>
      simp only [eval, Plain.eval]
      exact comes_lookup s name
  | binary s op l r =>
      simp only [eval, Plain.eval]
      exact .bind (comes_eval d l) fun a => .bind (comes_eval d r) fun b => comes_operate s op a b
  | call s name args =>
      have : 0 < sizeOf s := Span.sizeOf_pos s
      simp only [eval, Plain.eval]
      exact comes_callNamed d s name args
termination_by (limit - d, sizeOf e)
decreasing_by all_goals decreasing_with omega

lemma comes_callNamed (d : Nat) (s : Span) (name : Text) (args : List Expr) :
    Comes (fun n => do
        if (← get).functions.has name then
          call h limit n d s name (← args.mapM (eval h limit n d))
        else fail (.unknownFunction name) s)
      (Plain.callNamed h limit d s name args) := by
  rw [Plain.callNamed]
  refine .bind (.const fun _ => ⟨by rintro ⟨⟩, id⟩) fun st => ?_
  split_ifs
  · exact .bind (comes_values d args) fun vs => comes_call d s name vs
  · exact .fail _ _
termination_by (limit - d, sizeOf args + 1)
decreasing_by all_goals decreasing_with omega

/-- So do the values of several. -/
lemma comes_values (d : Nat) (es : List Expr) :
    Comes (fun n => es.mapM (eval h limit n d)) (Plain.values h limit d es) := by
  cases es with
  | nil =>
      simp only [List.mapM_nil, Plain.values]
      exact .pure _
  | cons e rest =>
      simp only [List.mapM_cons, Plain.values]
      exact .bind (comes_eval d e) fun v => .bind (comes_values d rest) fun vs => .pure _
termination_by (limit - d, sizeOf es)
decreasing_by all_goals decreasing_with omega

/-- So does the result of a call. -/
lemma comes_call (d : Nat) (s : Span) (name : Text) (args : List Value) :
    Comes (fun n => call h limit n d s name args) (Plain.call h limit d s name args) := by
  refine .of_succ ?_
  simp only [call]
  rw [Plain.call]
  refine .bind (.const fun _ => ⟨by rintro ⟨⟩, id⟩) fun cancelled => ?_
  -- the body is one that the state holds, so there is no loop in it
  refine .of_get fun st hst => ?_
  cases hf : st.functions.get? name with
  | none => exact .fail _ _
  | some f =>
      have hbody : Stmt.areLoopFree f.body = true := hst.get? hf
      by_cases hd : limit ≤ d
      · simp only [hd, if_true, dif_pos]
        exact .fail _ _
      · simp only [hd, if_false, dif_neg, not_false_eq_true]
        split_ifs
        · exact .const fun _ => ⟨by rintro ⟨⟩, id⟩
        · exact .bind (.within (comes_body (d + 1) f.body hbody) _) fun flow => .pure _
termination_by (limit - d, 0)
decreasing_by all_goals decreasing_with omega

/-- **A statement without loops comes** to its end. -/
lemma comes_exec (d : Nat) (st : Stmt) : st.isLoopFree = true →
    Comes (fun n => exec h limit n d st) (Plain.exec h limit d st) := by
  cases st with
  | absent =>
      intro hst
      refine .of_succ ?_
      simp only [exec, Plain.exec]
      exact .fail _ _
  | assign a =>
      intro hst
      refine .of_succ ?_
      obtain ⟨s, name, e, declared⟩ := a
      simp only [exec, Plain.exec, assign, bind_assoc]
      exact .bind (comes_eval d e) fun v => .const fun _ => ⟨by rintro ⟨⟩, id⟩
  | print s e =>
      intro hst
      refine .of_succ ?_
      simp only [exec, Plain.exec]
      exact .bind (comes_eval d e) fun v => .const fun _ => ⟨by rintro ⟨⟩, id⟩
  | input s name =>
      intro hst
      refine .of_succ ?_
      simp only [exec, Plain.exec]
      exact .bind (.const fun _ => ⟨by rintro ⟨⟩, id⟩) fun a =>
        .bind (comes_answer name a) fun _ => .pure _
  | choose s bs =>
      intro hst
      refine .of_succ ?_
      simp only [exec, Plain.exec]
      rw [Stmt.isLoopFree] at hst
      exact comes_choose d bs hst
  | loop s c body =>
      intro hst
      exact absurd hst (by simp [Stmt.isLoopFree])
  | count s init c inc body =>
      intro hst
      exact absurd hst (by simp [Stmt.isLoopFree])
  | function s name params body =>
      intro hst
      refine .of_succ ?_
      simp only [exec, Plain.exec]
      rw [Stmt.isLoopFree] at hst
      refine .const fun _ => ⟨by rintro ⟨⟩, fun htame => ?_⟩
      exact htame.set name (show Stmt.areLoopFree (Function.mk s name params body).body = true from hst)
  | call s name args =>
      intro hst
      refine .of_succ ?_
      have : 0 < sizeOf s := Span.sizeOf_pos s
      simp only [exec, Plain.exec]
      refine .bind (.of_succ ?_) fun _ => .pure _
      simp only [eval]
      exact comes_callNamed d s name args
  | giveBack s e =>
      intro _
      refine .of_succ ?_
      cases e with
      | absent =>
          simp only [exec, Plain.exec]
          exact .pure _
      | _ =>
          simp only [exec, Plain.exec]
          exact .bind (comes_eval d _) fun v => .pure _
termination_by (limit - d, sizeOf st)
decreasing_by all_goals decreasing_with omega

/-- So do several. -/
lemma comes_body (d : Nat) (sts : List Stmt) : Stmt.areLoopFree sts = true →
    Comes (fun n => block (exec h limit n d) sts) (Plain.body h limit d sts) := by
  cases sts with
  | nil =>
      intro _
      simp only [block, Plain.body]
      exact .pure _
  | cons st rest =>
      intro hsts
      rw [Stmt.areLoopFree, Bool.and_eq_true] at hsts
      simp only [block, Plain.body]
      refine .bind (comes_exec d st hsts.1) fun flow => ?_
      cases flow with
      | done => exact comes_body d rest hsts.2
      | returned v => exact .pure _
termination_by (limit - d, sizeOf sts)
decreasing_by all_goals decreasing_with omega

/-- So do the branches of a choice. -/
lemma comes_choose (d : Nat) (bs : List Branch) : Branch.areLoopFree bs = true →
    Comes (fun n => branches (eval h limit n d) (exec h limit n d) bs)
      (Plain.choose h limit d bs) := by
  match bs with
  | [] =>
      intro _
      simp only [branches, Plain.choose]
      exact .pure _
  | .absent :: rest =>
      intro hbs
      rw [Branch.areLoopFree, Bool.and_eq_true] at hbs
      simp only [branches, Plain.choose]
      exact comes_choose d rest hbs.2
  | .mk s c sts :: rest =>
      intro hbs
      rw [Branch.areLoopFree, Branch.isLoopFree, Bool.and_eq_true] at hbs
      cases c with
      | absent =>
          simp only [branches, Plain.choose]
          exact comes_body d sts hbs.1
      | _ =>
          simp only [branches, Plain.choose]
          refine .bind (comes_eval d _) fun v => ?_
          split_ifs
          · exact comes_body d sts hbs.1
          · exact comes_choose d rest hbs.2
termination_by (limit - d, sizeOf bs)
decreasing_by all_goals decreasing_with omega

end

/-! ### Runs and calls -/

/-- The outcome of a call, unless the evaluation gave up. -/
def callOutcome (i : Interpreter) : Except Stop Value × Flat σ → Option (Interpreter.Outcome σ)
  | (.error .exhausted, _) => none
  | (.error (.failed f), st) => some ⟨some f, none, ⟨i.limit, i.scopes, st.functions⟩, st.host⟩
  | (.ok v, st) => some ⟨none, some v, ⟨i.limit, i.scopes, st.functions⟩, st.host⟩

/-- What a call works on. -/
def ofInterpreter (i : Interpreter) (s : σ) : Flat σ := ⟨i.scopes.tables.flatten, i.functions, s⟩

/-- A machine that arrives at the end of a call. -/
lemma finish_of_call {i : Interpreter} {name : Text} {args : List Value} {s : σ} {c : Control}
    {st : Flat σ} (hc : c.settled = true)
    (ha : Setup.Arrives ⟨h, i.limit, false⟩ i.scopes.outer 0 [] (i.entry name args) s c st) :
    ∃ fuel, i.call h fuel name args s
      = some ⟨Machine.failure? ⟨c, [], i.scopes, st.functions, 0⟩,
          Machine.result? ⟨c, [], i.scopes, st.functions, 0⟩,
          ⟨i.limit, i.scopes, st.functions⟩, st.host⟩ := by
  obtain ⟨fuel, sc, -, -, hr⟩ := ha.run_eq hc
  have hcall : i.call h fuel name args s
      = some ⟨Machine.failure? ⟨c, [], sc, st.functions, 0⟩,
          Machine.result? ⟨c, [], sc, st.functions, 0⟩, ⟨i.limit, sc, st.functions⟩, st.host⟩ := by
    rw [Interpreter.call, Interpreter.finish, hr]
    rfl
  obtain rfl : sc = i.scopes := Interpreter.scopes_of_call hcall
  exact ⟨fuel, hcall⟩

/-- An outcome in the flat environment is one in scopes. -/
lemma call_of_outcome {i : Interpreter} {n : Nat} {name : Text} {args : List Value} {s : σ}
    {out : Interpreter.Outcome σ}
    (ho : callOutcome i (call h i.limit n 0 none name args (ofInterpreter i s)) = some out) :
    ∃ fuel, i.call h fuel name args s = some out := by
  have hreach := (Follows.all ⟨h, i.limit, false⟩ n).call 0 none name args [] i.scopes
    (ofInterpreter i s) ⟨lookup?_eq_get?_flatten i.scopes, by simp⟩
  match hr : call h i.limit n 0 none name args (ofInterpreter i s), hreach with
  | (.ok v, st), ha =>
      rw [hr] at ho
      obtain rfl := Option.some.inj ho
      exact finish_of_call rfl ha
  | (.error (.failed f), st), ha =>
      rw [hr] at ho
      obtain rfl := Option.some.inj ho
      exact finish_of_call rfl ha
  | (.error .exhausted, st), _ =>
      rw [hr] at ho
      exact absurd ho (by simp [callOutcome])

/-- A run that did not run out of fuel has an outcome. -/
lemma exists_outcome (limit : Nat) {r : Except Stop Flow × Flat σ} (hr : r.1 ≠ .error .exhausted) :
    ∃ out, outcome limit r = some out ∧ out.interpreter.functions = r.2.functions := by
  match r with
  | (.ok .done, st) | (.ok (.returned v), st) | (.error (.failed f), st) => exact ⟨_, rfl, rfl⟩
  | (.error .exhausted, st) => exact absurd rfl hr

/-- So does a call. -/
lemma exists_callOutcome (i : Interpreter) {r : Except Stop Value × Flat σ}
    (hr : r.1 ≠ .error .exhausted) :
    ∃ out, callOutcome i r = some out ∧ out.interpreter.functions = r.2.functions := by
  match r with
  | (.ok v, st) | (.error (.failed f), st) => exact ⟨_, rfl, rfl⟩
  | (.error .exhausted, st) => exact absurd rfl hr

/-- **Programs without loops terminate.** On every host and for every bound on the nesting of calls:

* every run of a program without loops comes to an outcome, which is the one that the evaluator by
  recursion on nesting and size computes, and leaves an interpreter whose functions are without loops;
* every call of a function on such an interpreter, by the same host or another one, comes to the
  outcome that this evaluator computes, and leaves such an interpreter again. -/
theorem loopFree_terminates {τ : Type} (h : Host σ) (h' : Host τ) :
    (∀ (i : Interpreter) (p : Program) (s : σ), Stmt.areLoopFree p.body = true →
      ∃ out, (∃ fuel, i.run h fuel (some p) s = some out)
        ∧ outcome i.limit (Plain.run h i.limit p s) = some out ∧ out.interpreter.IsLoopFree)
    ∧ ∀ (i : Interpreter) (name : Text) (args : List Value) (s : τ), i.IsLoopFree →
      ∃ out, (∃ fuel, i.call h' fuel name args s = some out)
        ∧ callOutcome i (Plain.call h' i.limit 0 none name args (ofInterpreter i s)) = some out
        ∧ out.interpreter.IsLoopFree := by
  constructor
  · intro i p s hp
    obtain ⟨hend, htame, n, hn⟩ := @comes_body _ h i.limit 0 p.body hp ⟨[], [], s⟩
      (by simp [Tame, Table.All])
    obtain ⟨out, hout, hfunctions⟩ := exists_outcome i.limit hend
    have hfuel : run h i.limit n p s = Plain.run h i.limit p s := hn n le_rfl
    refine ⟨out, run_of_outcome (n := n) ?_, hout, ?_⟩
    · rw [hfuel]
      exact hout
    · rw [Interpreter.IsLoopFree, hfunctions]
      exact htame
  · intro i name args s hi
    obtain ⟨hend, htame, n, hn⟩ := @comes_call _ h' i.limit 0 none name args
      (ofInterpreter i s) hi
    obtain ⟨out, hout, hfunctions⟩ := exists_callOutcome i hend
    have hfuel : call h' i.limit n 0 none name args (ofInterpreter i s)
        = Plain.call h' i.limit 0 none name args (ofInterpreter i s) := hn n le_rfl
    refine ⟨out, call_of_outcome (n := n) ?_, hout, ?_⟩
    · rw [hfuel]
      exact hout
    · rw [Interpreter.IsLoopFree, hfunctions]
      exact htame

/-- Two functions that call each other for ever, one of which declares the other anew. -/
def tangled : Program :=
  ⟨none,
    [.function none [0x66] [] [.function none [0x67] [] [.call none [0x66] []], .call none [0x67] []],
     .function none [0x67] [] [.giveBack none (.call none [0x66] [])],
     .call none [0x66] []]⟩

/-- The run ends with calls that are nested too deep, and so does every call that follows. -/
theorem loopFree_terminates_tangled :
    Stmt.areLoopFree tangled.body = true
      ∧ ∃ out, (∃ fuel, (Interpreter.new (some 3)).run (Queue.host {}) fuel (some tangled)
          (Queue.start {} []) = some out)
        ∧ out.failure = some (.ofNode (.depthExceeded [0x67]) none)
        ∧ ∃ out', ∃ fuel, out.interpreter.call (Queue.host {}) fuel [0x67] [.undefined]
          (Queue.start {} []) = some out' := by
  have hfree : Stmt.areLoopFree tangled.body = true := rfl
  have hrun : ∃ out, (Interpreter.new (some 3)).run (Queue.host {}) 60 (some tangled)
        (Queue.start {} []) = some out
      ∧ out.failure = some (.ofNode (.depthExceeded [0x67]) none) := ⟨_, rfl, rfl⟩
  have hends := loopFree_terminates (Queue.host {}) (Queue.host {})
  obtain ⟨out, ⟨fuel, ho⟩, -, hi⟩ := hends.1 (.new (some 3)) tangled (Queue.start {} []) hfree
  obtain ⟨out₀, ho₀, hfailure⟩ := hrun
  obtain rfl : out = out₀ := Interpreter.run_unique ho ho₀
  obtain ⟨out', hcall, -⟩ := hends.2 out.interpreter [0x67] [.undefined] (Queue.start {} []) hi
  exact ⟨hfree, out, ⟨fuel, ho⟩, hfailure, out', hcall⟩

end Flat

end LessonLang
