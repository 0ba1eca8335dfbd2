import LessonLang.Proofs.Flat
import LessonLang.Proofs.Machine.Path

/-!
The machine follows the evaluator in a flat environment.

* Scopes and environment `Agree` when every name has the same value in both. Binding a name keeps
  that, and so does opening a scope on the one side and binding parameters on the other.
* `Setup.Reach` says that the machine gets to where an evaluation ended: at the control that
  stands for what it came to, with scopes that agree and the same functions and host. An
  evaluation that used up its fuel leaves the machine on its way, after as many moves at least.
* `Follows n` collects this for evaluations with fuel `n`, and `Follows.all` proves it by
  induction on the fuel. The scopes around the innermost one are never touched; that is what lets
  a call give the caller's scopes back exactly, as the evaluator does with the caller's
  environment.
-/

namespace LessonLang

namespace Flat

variable {σ α β : Type}

/-! ### Sequences of evaluations -/

/-- A sequence goes on with the value of its first part. -/
lemma bind_of_ok {x : Eval σ α} {y : α → Eval σ β} {st st' : Flat σ} {a : α}
    (hx : x st = (.ok a, st')) : (x >>= y) st = y a st' := by
  change (x st >>= fun r => ExceptT.bindCont y r.1 r.2 : Id _) = _
  rw [hx]
  rfl

/-- A sequence stops where its first part does. -/
lemma bind_of_stop {x : Eval σ α} {y : α → Eval σ β} {st st' : Flat σ} {e : Stop}
    (hx : x st = (.error e, st')) : (x >>= y) st = (.error e, st') := by
  change (x st >>= fun r => ExceptT.bindCont y r.1 r.2 : Id _) = _
  rw [hx]
  rfl

lemma bind_get (y : Flat σ → Eval σ β) (st : Flat σ) : (get >>= y) st = y st st := rfl

lemma look_eq (h : Host σ) (st : Flat σ) :
    look h st = (.ok (h.cancelled (h.elapse st.host)), { st with host := h.elapse st.host }) :=
  rfl

/-! ### Scopes and environment -/

/-- **Scopes and environment agree.** If asked for, they are the same table while only the global
scope is open. -/
structure Agree (alone : Bool) (sc : Scopes) (env : Table Value) : Prop where
  lookup : ∀ name, sc.lookup? name = env.get? name
  inner : alone = true → sc.outer = [] → sc.inner = env

/-- Scopes and bindings still agree when a name is defined in both. -/
lemma Agree.define {alone : Bool} {sc : Scopes} {env : Table Value} (h : Agree alone sc env)
    (name : Text) (v : Value) : Agree alone (sc.define name v) (env.set name v) where
  lookup name' := by rw [Scopes.lookup?_define, Table.get?_set, h.lookup]
  inner halone houter := by
    change sc.inner.set name v = env.set name v
    rw [h.inner halone houter]

/-- Parameters in a scope of their own, and on top of the environment of the caller. -/
lemma Agree.push {alone : Bool} {sc : Scopes} {env : Table Value} (h : Agree alone sc env)
    (bs : List (Text × Value)) : Agree alone (sc.push (Table.ofList bs)) (env.rebind bs) where
  lookup name := by rw [Scopes.lookup?_push, Table.get?_rebind, h.lookup]
  inner _ houter := absurd houter (by simp [Scopes.push])

/-! ### Reaching the end of an evaluation -/

/-- What stays the same throughout: the host, the bound on calls, and what is asked of the scopes.
-/
structure Setup (σ : Type) where
  host : Host σ
  limit : Nat
  alone : Bool

/-- The control that stands for the end of a statement. -/
def Flow.control : Flow → Control
  | .done => .done
  | .returned v => .returned v

namespace Setup

/-- The machine comes to the control `c` above the frames `k`, inside of `d` calls and the scopes
`outer`. -/
def Arrives (w : Setup σ) (outer : List (Table Value)) (d : Nat) (k : List Frame) (m : Machine)
    (s : σ) (c : Control) (st : Flat σ) : Prop :=
  ∃ n sc, sc.outer = outer ∧ Agree w.alone sc st.env
    ∧ Machine.Path w.host w.limit n m s ⟨c, k, sc, st.functions, d⟩ st.host

/-- **The machine gets to where an evaluation ended**, or makes `credit` moves if the fuel was used
up. -/
def Reach (w : Setup σ) (outer : List (Table Value)) (d : Nat) (k : List Frame) (credit : Nat)
    (control : α → Control) (m : Machine) (s : σ) : Except Stop α × Flat σ → Prop
  | (.ok a, st) => w.Arrives outer d k m s (control a) st
  | (.error (.failed f), st) => w.Arrives outer d k m s (.failed f) st
  | (.error .exhausted, st) =>
    ∃ n m', credit ≤ n ∧ Machine.Path w.host w.limit n m s m' st.host

variable {w : Setup σ} {outer : List (Table Value)} {d n : Nat} {k k₁ : List Frame}
  {control : α → Control} {m m₁ : Machine} {s s₁ : σ} {sc : Scopes} {st : Flat σ}

lemma Arrives.of_path {c : Control} (hp : Machine.Path w.host w.limit n m s m₁ s₁)
    (ha : w.Arrives outer d k m₁ s₁ c st) : w.Arrives outer d k m s c st := by
  obtain ⟨n', sc, houter, hagree, hp'⟩ := ha
  exact ⟨n + n', sc, houter, hagree, hp.trans hp'⟩

/-- The machine is where it has to arrive. -/
lemma Arrives.here (st : Flat σ) (c : Control) (houter : sc.outer = outer)
    (hagree : Agree w.alone sc st.env) :
    w.Arrives outer d k ⟨c, k, sc, st.functions, d⟩ st.host c st :=
  ⟨0, sc, houter, hagree, .refl _ _⟩

/-- Moves in front. -/
lemma Reach.of_path {credit credit₁ : Nat} {r : Except Stop α × Flat σ}
    (hp : Machine.Path w.host w.limit n m s m₁ s₁) (hcredit : credit ≤ n + credit₁)
    (hr : w.Reach outer d k credit₁ control m₁ s₁ r) : w.Reach outer d k credit control m s r := by
  match r, hr with
  | (.ok a, st), hr => exact Arrives.of_path hp hr
  | (.error (.failed f), st), hr => exact Arrives.of_path hp hr
  | (.error .exhausted, st), ⟨n', m', hn', hp'⟩ =>
      exact ⟨n + n', m', hcredit.trans (Nat.add_le_add_left hn' n), hp.trans hp'⟩

/-- A move in front, which pays for a unit of fuel. -/
lemma Reach.of_move {r : Except Stop α × Flat σ}
    (hm : m.move w.host w.limit s = some (m₁, s₁))
    (hr : w.Reach outer d k n control m₁ s₁ r) : w.Reach outer d k (n + 1) control m s r :=
  hr.of_path (.step hm (.refl _ _)) (Nat.add_comm n 1).le

/-- A move in front that pays for nothing. -/
lemma Reach.of_free_move {r : Except Stop α × Flat σ}
    (hm : m.move w.host w.limit s = some (m₁, s₁))
    (hr : w.Reach outer d k n control m₁ s₁ r) : w.Reach outer d k n control m s r :=
  hr.of_path (.step hm (.refl _ _)) (Nat.le_add_left n 1)

lemma Reach.exhausted (m : Machine) (s : σ) (functions : Table Function) (env : Table Value) :
    w.Reach outer d k 0 control m s (.error .exhausted, ⟨env, functions, s⟩) :=
  ⟨0, m, le_rfl, .refl m s⟩

/-- **One evaluation behind another.** Between the two the machine is above the frames `k₁`, and a
failure of the first one is carried out of them. -/
lemma Reach.bind {x : Eval σ α} {y : α → Eval σ β} {control₁ : β → Control}
    (hx : w.Reach outer d k₁ n control m s (x st))
    (hfail : ∀ (e : Failure) (sc : Scopes) (st : Flat σ), sc.outer = outer →
      Agree w.alone sc st.env → w.Arrives outer d k ⟨.failed e, k₁, sc, st.functions, d⟩ st.host (.failed e) st)
    (hy : ∀ (a : α) (sc : Scopes) (st : Flat σ), sc.outer = outer → Agree w.alone sc st.env →
      w.Reach outer d k n control₁ ⟨control a, k₁, sc, st.functions, d⟩ st.host (y a st)) :
    w.Reach outer d k n control₁ m s ((x >>= y) st) := by
  match hr : x st, hx with
  | (.ok a, st'), ⟨n', sc', houter, hagree, hp⟩ =>
      rw [bind_of_ok hr]
      exact (hy a sc' st' houter hagree).of_path hp (Nat.le_add_left n n')
  | (.error (.failed e), st'), ⟨n', sc', houter, hagree, hp⟩ =>
      rw [bind_of_stop hr]
      exact (hfail e sc' st' houter hagree).of_path hp
  | (.error .exhausted, st'), hx =>
      rw [bind_of_stop hr]
      exact hx

/-- A step that neither looks nor involves the host is a move. -/
lemma move_of_next {h : Host σ} {limit : Nat} (hlooks : m.looks = false)
    (hstep : ∀ c, m.step limit c = .next m₁) : m.move h limit s = some (m₁, s) := by
  rw [Machine.move, Machine.hostAt, hlooks, hstep]
  rfl

/-- A step that looks whether the run was cancelled sees the host a moment later. -/
lemma move_of_look {h : Host σ} {limit : Nat} (hlooks : m.looks = true)
    (hstep : m.step limit (h.cancelled (h.elapse s)) = .next m₁) :
    m.move h limit s = some (m₁, h.elapse s) := by
  rw [Machine.move, Machine.hostAt, if_pos hlooks, hstep]

/-- A failure is carried out of every frame but that of a call in one move. -/
lemma move_failed {h : Host σ} {limit : Nat} {f : Frame} (hf : f ≠ .call) (e : Failure)
    (functions : Table Function) :
    Machine.move h limit ⟨.failed e, f :: k, sc, functions, d⟩ s
      = some (⟨.failed e, k, sc, functions, d⟩, s) := by
  cases f with
  | call => exact absurd rfl hf
  | _ => rfl

/-- A returned value passes every frame but that of its call. -/
lemma move_returned {h : Host σ} {limit : Nat} {f : Frame} (hf : f ≠ .call) (v : Value)
    (functions : Table Function) :
    Machine.move h limit ⟨.returned v, f :: k, sc, functions, d⟩ s
      = some (⟨.returned v, k, sc, functions, d⟩, s) := by
  cases f with
  | call => exact absurd rfl hf
  | _ => rfl

/-- The first evaluation stands under a frame of its own. -/
lemma Reach.bind_frame {x : Eval σ α} {y : α → Eval σ β} {control₁ : β → Control} {f : Frame}
    (hf : f ≠ .call) (hx : w.Reach outer d (f :: k) n control m s (x st))
    (hy : ∀ (a : α) (sc : Scopes) (st : Flat σ), sc.outer = outer → Agree w.alone sc st.env →
      w.Reach outer d k n control₁ ⟨control a, f :: k, sc, st.functions, d⟩ st.host (y a st)) :
    w.Reach outer d k n control₁ m s ((x >>= y) st) :=
  hx.bind (fun e _ st houter hagree => .of_path
    (.step (move_failed hf e st.functions) (.refl _ _)) (.here st _ houter hagree)) hy

/-- The second evaluation goes on where the first one ended. -/
lemma Reach.bind_same {x : Eval σ α} {y : α → Eval σ β} {control₁ : β → Control}
    (hx : w.Reach outer d k n control m s (x st))
    (hy : ∀ (a : α) (sc : Scopes) (st : Flat σ), sc.outer = outer → Agree w.alone sc st.env →
      w.Reach outer d k n control₁ ⟨control a, k, sc, st.functions, d⟩ st.host (y a st)) :
    w.Reach outer d k n control₁ m s ((x >>= y) st) :=
  hx.bind (fun _ _ st houter hagree => .here st _ houter hagree) hy

/-! ### Parts of statements -/

/-- **The machine follows an evaluation** of fuel `n` from the control `c`, inside of `d` calls. -/
def Follow (w : Setup σ) (n d : Nat) (c : Control) (x : Eval σ α) (control : α → Control) : Prop :=
  ∀ (k : List Frame) (sc : Scopes) (st : Flat σ), Agree w.alone sc st.env →
    w.Reach sc.outer d k n control ⟨c, k, sc, st.functions, d⟩ st.host (x st)

section parts

variable {eval : Expr → Eval σ Value} {exec : Stmt → Eval σ Flow}

/-- **The machine follows a block** if it follows statements. -/
lemma follow_block (hexec : ∀ s, w.Follow n d (.exec s) (exec s) Flow.control) :
    ∀ body, w.Follow n d (.block body) (block exec body) Flow.control
  | [], k, sc, st, hagree => .of_free_move rfl (Arrives.here st .done rfl hagree)
  | s :: rest, k, sc, st, hagree => by
      rw [block]
      refine .of_free_move rfl (.bind_frame (f := .sequence rest) (by simp)
        (hexec s _ sc st hagree) ?_)
      intro flow sc' st' houter hagree'
      cases flow with
      | done =>
          rw [← houter]
          exact .of_free_move rfl (follow_block hexec rest k sc' st' hagree')
      | returned v =>
          exact .of_free_move (move_returned (by simp) v _)
            (Arrives.here st' (.returned v) houter hagree')

/-- It follows an assignment if it follows expressions. -/
lemma follow_assign (heval : ∀ e, w.Follow n d (.eval e) (eval e) .value) :
    ∀ a, w.Follow n d (.assign a) (assign eval a) fun _ => .done
  | none, k, sc, st, hagree => .of_free_move rfl (Arrives.here st (.failed _) rfl hagree)
  | some a, k, sc, st, hagree => by
      rw [assign]
      refine .of_free_move rfl (.bind_frame (f := .bind a.name) (by simp)
        (heval a.value _ sc st hagree) ?_)
      intro v sc' st' houter hagree'
      exact .of_free_move rfl (Arrives.here ⟨st'.env.set a.name v, st'.functions, st'.host⟩ .done
        houter (hagree'.define a.name v))

/-- The value of a condition selects its branch, or sends on to the next one. -/
lemma move_select {h : Host σ} {limit : Nat} {v : Value} {b : Bool} (hv : v.truthy = b)
    (body : List Stmt) (rest : List Branch) (functions : Table Function) :
    Machine.move h limit ⟨.value v, .select body rest :: k, sc, functions, d⟩ s
      = some (⟨cond b (.block body) (.branches rest), k, sc, functions, d⟩, s) := by
  refine move_of_next rfl fun _ => ?_
  cases b <;> simp [Machine.step, Machine.stepValue, hv, Machine.resume]

/-- A condition selects its body or leaves it to the other branches. -/
lemma follow_select (heval : ∀ e, w.Follow n d (.eval e) (eval e) .value)
    {body : List Stmt} {rest : List Branch} {x y : Eval σ Flow}
    (hbody : w.Follow n d (.block body) x Flow.control)
    (hrest : w.Follow n d (.branches rest) y Flow.control) (c : Expr) (k : List Frame)
    (sc : Scopes) (st : Flat σ) (hagree : Agree w.alone sc st.env) :
    w.Reach sc.outer d k n Flow.control ⟨.eval c, .select body rest :: k, sc, st.functions, d⟩
      st.host ((do if (← eval c).truthy then x else y) st) := by
  refine .bind_frame (f := .select body rest) (by simp) (heval c _ sc st hagree) ?_
  intro v sc' st' houter hagree'
  rw [← houter]
  cases hv : v.truthy with
  | true => exact .of_free_move (move_select hv body rest _) (hbody k sc' st' hagree')
  | false => exact .of_free_move (move_select hv body rest _) (hrest k sc' st' hagree')

/-- It follows branches if it follows expressions and statements. -/
lemma follow_branches (heval : ∀ e, w.Follow n d (.eval e) (eval e) .value)
    (hexec : ∀ s, w.Follow n d (.exec s) (exec s) Flow.control) :
    ∀ bs, w.Follow n d (.branches bs) (branches eval exec bs) Flow.control
  | [], k, sc, st, hagree => .of_free_move rfl (Arrives.here st .done rfl hagree)
  | .absent :: rest, k, sc, st, hagree =>
      .of_free_move rfl (follow_branches heval hexec rest k sc st hagree)
  | .mk _ c body :: rest, k, sc, st, hagree => by
      have hbody := follow_block hexec body
      have hrest := follow_branches heval hexec rest
      cases c with
      | absent => exact .of_free_move rfl (hbody k sc st hagree)
      | _ => exact .of_free_move rfl (follow_select heval hbody hrest _ k sc st hagree)

/-- The arguments of a call, from the first one on. -/
lemma follow_arguments (heval : ∀ e, w.Follow n d (.eval e) (eval e) .value) (span : Span)
    (name : Text) : ∀ (rest : List Expr) (e : Expr) (ready : List Value) (k : List Frame)
      (sc : Scopes) (st : Flat σ), Agree w.alone sc st.env →
      w.Reach sc.outer d k n (fun vs => .enter span name (ready ++ vs))
        ⟨.eval e, .arguments span name ready rest :: k, sc, st.functions, d⟩ st.host
        ((e :: rest).mapM eval st)
  | rest, e, ready, k, sc, st, hagree => by
      rw [List.mapM_cons]
      refine .bind_frame (f := .arguments span name ready rest) (by simp)
        (heval e _ sc st hagree) ?_
      intro v sc' st' houter hagree'
      rw [← houter]
      cases rest with
      | nil =>
          exact .of_free_move rfl
            (Arrives.here st' (.enter span name (ready ++ [v])) rfl hagree')
      | cons e' rest =>
          refine .of_free_move rfl (.bind_same
            (follow_arguments heval span name rest e' (ready ++ [v]) k sc' st' hagree') ?_)
          intro vs sc'' st'' houter' hagree''
          rw [List.append_assoc]
          exact Arrives.here st'' (.enter span name (ready ++ v :: vs)) houter' hagree''

end parts

/-! ### Expressions, statements, calls and loops -/

end Setup

/-- **The machine follows** every evaluation of fuel `n`. -/
structure Follows (w : Setup σ) (n : Nat) : Prop where
  eval : ∀ d e, w.Follow n d (.eval e) (eval w.host w.limit n d e) .value
  call : ∀ d span name args,
    w.Follow n d (.enter span name args) (call w.host w.limit n d span name args) .value
  exec : ∀ d s, w.Follow n d (.exec s) (exec w.host w.limit n d s) Flow.control
  rounds : ∀ d l, w.Follow n d (.round l) (rounds w.host w.limit n d l) Flow.control

namespace Follows

open Setup

variable {w : Setup σ} {n : Nat}

/-- Without fuel there is nothing to follow. -/
lemma zero (w : Setup σ) : Follows w 0 where
  eval d e k sc st _ := by
    rw [Flat.eval]
    exact .exhausted _ _ st.functions st.env
  call d span name args k sc st _ := by
    rw [Flat.call]
    exact .exhausted _ _ st.functions st.env
  exec d s k sc st _ := by
    rw [Flat.exec]
    exact .exhausted _ _ st.functions st.env
  rounds d l k sc st _ := by
    rw [Flat.rounds]
    exact .exhausted _ _ st.functions st.env

/-! #### Expressions -/

/-- A name that both sides find or neither does. -/
lemma lookup (span : Span) (name : Text) (d : Nat) :
    w.Follow (n + 1) d (.eval (.identifier span name)) (Flat.lookup span name) .value := by
  intro k sc st hagree
  rw [Flat.lookup, bind_get]
  cases hv : st.env.get? name with
  | some v =>
      refine .of_move (move_of_next rfl fun _ => ?_) (Arrives.here st (.value v) rfl hagree)
      simp [Machine.step, Machine.stepEval, hagree.lookup, hv, Machine.resume]
  | none =>
      refine .of_move (move_of_next rfl fun _ => ?_) (Arrives.here st (.failed _) rfl hagree)
      simp [Machine.step, Machine.stepEval, hagree.lookup, hv, Machine.fail, Machine.resume]

/-- An operator applied to its operands. -/
lemma operate (span : Span) (op : Text) (a b : Value) (d : Nat) (k : List Frame) (sc : Scopes)
    (st : Flat σ) (hagree : Agree w.alone sc st.env) :
    w.Reach sc.outer d k n .value ⟨.value b, .operate span op a :: k, sc, st.functions, d⟩ st.host
      ((match applyOperator op a b with
        | .ok v => (pure v : Eval σ Value)
        | .error c => fail c span) st) := by
  cases hr : applyOperator op a b with
  | ok v =>
      refine .of_free_move (move_of_next rfl fun _ => ?_) (Arrives.here st (.value v) rfl hagree)
      simp [Machine.step, Machine.stepValue, hr, Machine.resume]
  | error c =>
      refine .of_free_move (move_of_next rfl fun _ => ?_) (Arrives.here st (.failed _) rfl hagree)
      simp [Machine.step, Machine.stepValue, hr, Machine.fail, Machine.resume]

/-- The arguments of a call to a known function, and then the call. -/
lemma arguments (h : Follows w n) (span : Span) (name : Text) (args : List Expr) (d : Nat)
    (k : List Frame) (sc : Scopes) (st : Flat σ) (hagree : Agree w.alone sc st.env)
    (hname : st.functions.has name = true) :
    w.Reach sc.outer d k (n + 1) .value ⟨.eval (.call span name args), k, sc, st.functions, d⟩
      st.host ((do
        Flat.call w.host w.limit n d span name
          (← args.mapM (Flat.eval w.host w.limit n d))) st) := by
  cases args with
  | nil =>
      rw [List.mapM_nil]
      refine .of_move (move_of_next rfl fun _ => ?_) (h.call d span name [] k sc st hagree)
      simp [Machine.step, Machine.stepEval, hname, Machine.resume]
  | cons e rest =>
      refine .of_move (move_of_next rfl fun _ => ?_) (.bind_same
        (follow_arguments (h.eval d) span name rest e [] k sc st hagree) ?_)
      · simp [Machine.step, Machine.stepEval, hname, Machine.resume]
      · intro vs sc' st' houter hagree'
        rw [← houter]
        exact h.call d span name vs k sc' st' hagree'

/-- With one more unit of fuel, expressions are followed. -/
lemma eval_succ (h : Follows w n) (d : Nat) (e : Expr) :
    w.Follow (n + 1) d (.eval e) (Flat.eval w.host w.limit (n + 1) d e) .value := by
  intro k sc st hagree
  rw [Flat.eval.eq_def]
  cases e with
  | absent => exact .of_move rfl (Arrives.here st (.failed _) rfl hagree)
  | number span x => exact .of_move rfl (Arrives.here st (.value _) rfl hagree)
  | string span t => exact .of_move rfl (Arrives.here st (.value _) rfl hagree)
  | identifier span name => exact lookup span name d k sc st hagree
  | binary span op l r =>
      refine .of_move rfl (.bind_frame (f := .right span op r) (by simp)
        (h.eval d l _ sc st hagree) ?_)
      intro a sc₁ st₁ houter₁ hagree₁
      rw [← houter₁]
      refine .of_free_move rfl (.bind_frame (f := .operate span op a) (by simp)
        (h.eval d r _ sc₁ st₁ hagree₁) ?_)
      intro b sc₂ st₂ houter₂ hagree₂
      rw [← houter₂]
      exact operate span op a b d k sc₂ st₂ hagree₂
  | call span name args =>
      dsimp only
      rw [bind_get]
      split_ifs with hname
      · exact h.arguments span name args d k sc st hagree hname
      · refine .of_move (move_of_next rfl fun _ => ?_) (Arrives.here st (.failed _) rfl hagree)
        simp [Machine.step, Machine.stepEval, hname, Machine.fail, Machine.resume]

/-! #### Calls -/

/-- Leaving a call closes its scope, and what was around it is the scopes of the caller. -/
lemma leave_eq {sc sc' : Scopes} (hsc : sc'.outer = sc.inner :: sc.outer) (c₀ c : Control)
    (k₀ k : List Frame) (functions : Table Function) (d : Nat) :
    Machine.leave ⟨c₀, k₀, sc', functions, d + 1⟩ c k = .next ⟨c, k, sc, functions, d⟩ := by
  rw [Machine.leave.eq_def]
  simp [Scopes.pop?, hsc]

/-- A body that came to `c` is left for `c'`, back in the scopes and the environment of the
caller. -/
lemma arrives_leave {c c' : Control} {d : Nat} {k : List Frame} {sc : Scopes} {env : Table Value}
    {m : Machine} {s : σ} {st : Flat σ} (hagree : Agree w.alone sc env)
    (hmove : ∀ sc', sc'.outer = sc.inner :: sc.outer →
      Machine.move w.host w.limit ⟨c, .call :: k, sc', st.functions, d + 1⟩ st.host
        = some (⟨c', k, sc, st.functions, d⟩, st.host))
    (ha : w.Arrives (sc.inner :: sc.outer) (d + 1) (.call :: k) m s c st) :
    w.Arrives sc.outer d k m s c' { st with env } := by
  obtain ⟨n, sc', houter, -, hp⟩ := ha
  exact .of_path hp (.of_path (.step (hmove sc' houter) (.refl _ _))
    (.here ⟨env, st.functions, st.host⟩ c' rfl hagree))

/-- **The body of a call**: whatever it comes to, the machine is back in the scopes of the caller
and the evaluator in the environment of the caller. -/
lemma body {x : Eval σ Flow} {d : Nat} {k : List Frame} {sc : Scopes} {m : Machine} {s : σ}
    (bs : List (Text × Value)) (st : Flat σ) (hagree : Agree w.alone sc st.env)
    (hx : w.Reach (sc.inner :: sc.outer) (d + 1) (.call :: k) n Flow.control m s
      (x { st with env := st.env.rebind bs })) :
    w.Reach sc.outer d k n .value m s ((do return (← within bs x).value) st) := by
  have hwithin : within bs x st = ((x { st with env := st.env.rebind bs }).1,
      { (x { st with env := st.env.rebind bs }).2 with env := st.env }) := rfl
  match hr : x { st with env := st.env.rebind bs }, hx with
  | (.ok .done, st'), hx =>
      rw [hr] at hwithin
      rw [bind_of_ok hwithin]
      exact arrives_leave (c := .done) hagree
        (fun _ hsc => move_of_next rfl fun _ => leave_eq hsc _ _ _ _ _ _) hx
  | (.ok (.returned v), st'), hx =>
      rw [hr] at hwithin
      rw [bind_of_ok hwithin]
      exact arrives_leave (c := .returned v) hagree
        (fun _ hsc => move_of_next rfl fun _ => leave_eq hsc _ _ _ _ _ _) hx
  | (.error (.failed e), st'), hx =>
      rw [hr] at hwithin
      rw [bind_of_stop hwithin]
      exact arrives_leave (c := .failed e) hagree
        (fun _ hsc => move_of_next rfl fun _ => leave_eq hsc _ _ _ _ _ _) hx
  | (.error .exhausted, st'), hx =>
      rw [hr] at hwithin
      rw [bind_of_stop hwithin]
      exact hx

/-- So are calls. -/
lemma call_succ (h : Follows w n) (d : Nat) (span : Span) (name : Text) (args : List Value) :
    w.Follow (n + 1) d (.enter span name args)
      (Flat.call w.host w.limit (n + 1) d span name args) .value := by
  intro k sc st hagree
  rw [Flat.call, bind_of_ok (look_eq w.host st), bind_get]
  cases hf : st.functions.get? name with
  | none =>
      refine .of_move (move_of_look rfl ?_)
        (Arrives.here ⟨st.env, st.functions, w.host.elapse st.host⟩ (.failed _) rfl hagree)
      simp [Machine.step, Machine.stepEnter, hf, Machine.fail, Machine.resume]
  | some f =>
      dsimp only
      split_ifs with hlimit hcancelled
      · refine .of_move (move_of_look rfl ?_)
          (Arrives.here ⟨st.env, st.functions, w.host.elapse st.host⟩ (.failed _) rfl hagree)
        simp [Machine.step, Machine.stepEnter, hf, hlimit, Machine.fail, Machine.resume]
      · refine .of_move (move_of_look rfl ?_)
          (Arrives.here ⟨st.env, st.functions, w.host.elapse st.host⟩ (.failed _) rfl hagree)
        simp [Machine.step, Machine.stepEnter, hf, hlimit, hcancelled, Machine.resume]
      · refine .of_move (move_of_look rfl ?_) (body (f.parameters args)
          ⟨st.env, st.functions, w.host.elapse st.host⟩ hagree
          (follow_block (h.exec (d + 1)) f.body (.call :: k) (sc.push (f.bindings args))
            ⟨_, st.functions, w.host.elapse st.host⟩ (hagree.push _)))
        simp [Machine.step, Machine.stepEnter, hf, hlimit, hcancelled]

/-! #### Statements -/

/-- The answer to a prompt, or the lack of one. -/
lemma answer (name : Text) (a : Machine.Answer) (d : Nat) (k : List Frame) (sc : Scopes)
    (st : Flat σ) (hagree : Agree w.alone sc st.env) :
    w.Reach sc.outer d k n (fun _ => .done)
      (Machine.answer ⟨.await name, k, sc, st.functions, d⟩ (w.host.cancelled st.host) a) st.host
      (Flat.answer w.host name a st) := by
  cases a with
  | error fault => exact Arrives.here st (.failed (.input name fault)) rfl hagree
  | ok text =>
      rw [Flat.answer, bind_get, Machine.answer]
      dsimp only
      split_ifs
      · exact Arrives.here st (.failed .canceled) rfl hagree
      · exact Arrives.here ⟨st.env.set name (.string text), st.functions, st.host⟩ .done rfl
          (hagree.define name (.string text))

/-- A prompt and its answer are one move of the machine. -/
lemma input (name : Text) (d : Nat) (span : Span) :
    w.Follow (n + 1) d (.exec (.input span name))
      (do Flat.answer w.host name (← Flat.ask w.host name); return .done) Flow.control := by
  intro k sc st hagree
  cases hask : w.host.ask (promptText name) st.host with
  | mk a s =>
      have hflat : Flat.ask w.host name st = (.ok a, { st with host := s }) := by
        rw [Flat.ask, hask]
      have hmove : Machine.move w.host w.limit
          ⟨.exec (.input span name), k, sc, st.functions, d⟩ st.host
          = some (Machine.answer ⟨.await name, k, sc, st.functions, d⟩
              (w.host.cancelled s) a, s) := by
        simp [Machine.move, Machine.hostAt, Machine.looks, Machine.step, Machine.stepExec, hask]
      rw [bind_of_ok hflat]
      refine .of_move hmove (.bind_same
        (answer name a d k sc ⟨st.env, st.functions, s⟩ hagree) ?_)
      intro _ sc' st' houter hagree'
      exact Arrives.here st' .done houter hagree'

/-- So are statements. -/
lemma exec_succ (h : Follows w n) (d : Nat) (s : Stmt) :
    w.Follow (n + 1) d (.exec s) (Flat.exec w.host w.limit (n + 1) d s) Flow.control := by
  intro k sc st hagree
  rw [Flat.exec.eq_def]
  cases s with
  | absent => exact .of_move rfl (Arrives.here st (.failed _) rfl hagree)
  | assign a =>
      refine .of_move rfl (.bind_same (follow_assign (h.eval d) (some a) k sc st hagree) ?_)
      intro _ sc' st' houter hagree'
      exact Arrives.here st' .done houter hagree'
  | print span e =>
      refine .of_move rfl (.bind_frame (f := .print) (by simp) (h.eval d e _ sc st hagree) ?_)
      intro v sc' st' houter hagree'
      exact .of_free_move rfl (Arrives.here
        ⟨st'.env, st'.functions, w.host.emit v.shown st'.host⟩ .done houter hagree')
  | input span name => exact input name d span k sc st hagree
  | choose span bs => exact .of_move rfl (follow_branches (h.eval d) (h.exec d) bs k sc st hagree)
  | loop span c body => exact .of_move rfl (h.rounds d _ k sc st hagree)
  | count span init c inc body =>
      refine .of_move rfl (.bind_frame (f := .again ⟨c, body, some inc⟩) (by simp)
        (follow_assign (h.eval d) init _ sc st hagree) ?_)
      intro _ sc' st' houter hagree'
      rw [← houter]
      exact .of_free_move rfl (h.rounds d _ k sc' st' hagree')
  | function span name params body =>
      exact .of_move rfl (Arrives.here
        ⟨st.env, st.functions.set name ⟨span, name, params, body⟩, st.host⟩ .done rfl hagree)
  | call span name args =>
      refine .of_move rfl (.bind_frame (f := .ignore) (by simp)
        (h.eval d (.call span name args) _ sc st hagree) ?_)
      intro v sc' st' houter hagree'
      exact .of_free_move rfl (Arrives.here st' .done houter hagree')
  | giveBack span e =>
      cases e with
      | absent => exact .of_move rfl (Arrives.here st (.returned .undefined) rfl hagree)
      | _ =>
          refine .of_move rfl (.bind_frame (f := .giveBack) (by simp)
            (h.eval d _ _ sc st hagree) ?_)
          intro v sc' st' houter hagree'
          exact .of_free_move rfl (Arrives.here st' (.returned v) houter hagree')

/-! #### Loops -/

/-- A condition lets the body run or ends the loop. -/
lemma move_test {h : Host σ} {limit d : Nat} {v : Value} {b : Bool} (hv : v.truthy = b) (l : Loop)
    (k : List Frame) (sc : Scopes) (functions : Table Function) (s : σ) :
    Machine.move h limit ⟨.value v, .test l :: k, sc, functions, d⟩ s
      = some (⟨cond b (.block l.body) .done, cond b (.body l :: k) k, sc, functions, d⟩, s) := by
  refine move_of_next rfl fun _ => ?_
  cases b <;> simp [Machine.step, Machine.stepValue, hv, Machine.resume]

/-- The assignment behind a round, and the rounds that follow. -/
lemma increment (h : Follows w n) (d : Nat) (l : Loop) (k : List Frame) (sc : Scopes) (st : Flat σ)
    (hagree : Agree w.alone sc st.env) :
    w.Reach sc.outer d k n Flow.control ⟨.done, .body l :: k, sc, st.functions, d⟩ st.host
      ((match l.increment with
        | none => Flat.rounds w.host w.limit n d l
        | some a => do
          assign (Flat.eval w.host w.limit n d) a
          Flat.rounds w.host w.limit n d l) st) := by
  cases hinc : l.increment with
  | none =>
      refine .of_free_move (move_of_next rfl fun _ => ?_) (h.rounds d l k sc st hagree)
      simp [Machine.step, Machine.stepDone, hinc, Machine.resume]
  | some a =>
      refine .of_free_move (move_of_next rfl fun _ => ?_) (.bind_frame (f := .again l) (by simp)
        (follow_assign (h.eval d) a _ sc st hagree) ?_)
      · simp [Machine.step, Machine.stepDone, hinc, Machine.resume]
      · intro _ sc' st' houter hagree'
        rw [← houter]
        exact .of_free_move rfl (h.rounds d l k sc' st' hagree')

/-- The rest of a round behind its condition. -/
lemma round (h : Follows w n) (d : Nat) (l : Loop) (v : Value) (k : List Frame) (sc : Scopes)
    (st : Flat σ) (hagree : Agree w.alone sc st.env) :
    w.Reach sc.outer d k n Flow.control ⟨.value v, .test l :: k, sc, st.functions, d⟩ st.host
      ((if v.truthy then do
          match ← block (Flat.exec w.host w.limit n d) l.body with
          | .returned v => return .returned v
          | .done =>
            match l.increment with
            | none => Flat.rounds w.host w.limit n d l
            | some a => do
              assign (Flat.eval w.host w.limit n d) a
              Flat.rounds w.host w.limit n d l
        else return .done : Eval σ Flow) st) := by
  cases hv : v.truthy with
  | false => exact .of_free_move (move_test hv l k sc _ _) (Arrives.here st .done rfl hagree)
  | true =>
      refine .of_free_move (move_test hv l k sc _ _) (.bind_frame (f := .body l) (by simp)
        (follow_block (h.exec d) l.body _ sc st hagree) ?_)
      intro flow sc' st' houter hagree'
      cases flow with
      | returned v =>
          exact .of_free_move (move_returned (by simp) v _)
            (Arrives.here st' (.returned v) houter hagree')
      | done =>
          rw [← houter]
          exact h.increment d l k sc' st' hagree'

/-- So are the rounds of a loop. -/
lemma rounds_succ (h : Follows w n) (d : Nat) (l : Loop) :
    w.Follow (n + 1) d (.round l) (Flat.rounds w.host w.limit (n + 1) d l) Flow.control := by
  intro k sc st hagree
  rw [Flat.rounds, bind_of_ok (look_eq w.host st)]
  cases hc : w.host.cancelled (w.host.elapse st.host) with
  | true =>
      refine .of_move (move_of_look rfl ?_)
        (Arrives.here ⟨st.env, st.functions, w.host.elapse st.host⟩ (.failed .canceled) rfl hagree)
      simp [Machine.step, hc, Machine.resume]
  | false =>
      refine .of_move (move_of_look rfl ?_) (.bind_frame (f := .test l) (by simp)
        (h.eval d l.condition _ sc ⟨st.env, st.functions, w.host.elapse st.host⟩ hagree) ?_)
      · simp [Machine.step, hc, Machine.resume]
      · intro v sc' st' houter hagree'
        rw [← houter]
        exact h.round d l v k sc' st' hagree'

/-- **The machine follows the evaluator.** -/
lemma all (w : Setup σ) : ∀ n, Follows w n
  | 0 => zero w
  | n + 1 =>
      have h := all w n
      ⟨h.eval_succ, h.call_succ, h.exec_succ, h.rounds_succ⟩

end Follows

end Flat

end LessonLang
