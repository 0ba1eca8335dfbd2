import LessonLang.Proofs.Machine.Nested
import LessonLang.Proofs.Tree.Place

/-!
The functions that a run declares.

* `Machine.declared` are the functions that the next step declares, none or one, and
  `Machine.declarations` those that a number of moves declare, in order. No move does anything else
  to the table of functions (`Machine.move_functions`), so that along a path the latest declaration
  of a name counts, or else what was declared before (`Machine.Path.get?_functions`).
* `Declares` says where declarations come from. A machine holds statements in its control, in the
  frames above `base` and in the bodies of its functions, and every move of unfinished work only
  takes them apart (`Declares.move`).
* `functions_grow`: no function is lost, what is declared stands in the tree or in the body of a
  function, and a call that has been checked enters the function declared last.
-/

namespace LessonLang

variable {σ : Type}

/-- A function as the statement that declares it. -/
def Function.node (f : Function) : TreeNode := .stmt (.function f.span f.name f.params f.body)

/-- The latest of some functions with a name. -/
def latest (name : Text) (fs : List Function) : Option Function :=
  fs.reverse.find? (·.name == name)

/-- A table of functions in which further ones have been declared, in order. -/
def Table.declare (t : Table Function) (fs : List Function) : Table Function :=
  fs.foldl (fun t f => t.set f.name f) t

/-- **The latest declaration counts.** -/
lemma Table.get?_declare (t : Table Function) (fs : List Function) (name : Text) :
    (t.declare fs).get? name = (latest name fs).or (t.get? name) := by
  induction fs using List.reverseRecOn with
  | nil => rfl
  | append_singleton fs f ih =>
      have hlast : t.declare (fs ++ [f]) = (t.declare fs).set f.name f := List.foldl_append ..
      rw [hlast, get?_set, ih, latest, latest, List.reverse_concat, List.find?_cons,
        Bool.beq_comm (a := name)]
      cases f.name == name <;> rfl

/-! ### Declarations along a path -/

namespace Machine

variable {h : Host σ} {limit : Nat}

/-- The functions that the next step declares. -/
def declared (m : Machine) : List Function :=
  match m.control with
  | .exec (.function s name params body) => [⟨s, name, params, body⟩]
  | _ => []

/-- The functions that the first `n` moves declare, in order. -/
def declarations (h : Host σ) (limit : Nat) : (n : Nat) → Machine → σ → List Function
  | 0, _, _ => []
  | n + 1, m, s =>
    match m.move h limit s with
    | none => []
    | some (m', s') => m.declared ++ declarations h limit n m' s'

/-- To evaluate an expression declares nothing. -/
lemma stepEval_functions (m : Machine) (k : List Frame) (e : Expr) :
    (m.stepEval k e).All (·.functions = m.functions) := by
  cases e with
  | identifier span name =>
      rw [stepEval]
      split <;> rfl
  | call span name args =>
      rw [stepEval.eq_def]
      dsimp only
      split
      · cases args <;> rfl
      · rfl
  | _ => rfl

/-- A statement declares a function if it is a declaration. -/
lemma stepExec_functions (m : Machine) (k : List Frame) (st : Stmt) :
    (m.stepExec k st).All (·.functions
      = m.functions.declare (declared { m with control := .exec st })) := by
  cases st with
  | input => exact ⟨rfl, rfl⟩
  | giveBack span e => cases e <;> rfl
  | _ => rfl

/-- To enter a call declares nothing. -/
lemma stepEnter_functions (m : Machine) (c : Bool) (k : List Frame) (span : Span) (name : Text)
    (args : List Value) :
    (m.stepEnter limit c k span name args).All (·.functions = m.functions) := by
  rw [stepEnter]
  split
  · rfl
  · split_ifs <;> rfl

/-- To leave a call declares nothing. -/
lemma leave_functions (m : Machine) (c : Control) (k : List Frame) :
    (m.leave c k).All (·.functions = m.functions) := by
  rw [leave.eq_def]
  split
  · rfl
  · split <;> rfl

/-- To go on with a value declares nothing. -/
lemma stepValue_functions (m : Machine) (v : Value) (k : List Frame) :
    (m.stepValue v k).All (·.functions = m.functions) := by
  cases k with
  | nil => trivial
  | cons f k =>
      cases f with
      | operate span op left =>
          rw [stepValue]
          split <;> rfl
      | arguments span name ready rest => cases rest <;> rfl
      | select body rest =>
          rw [stepValue]
          split_ifs <;> rfl
      | test l =>
          rw [stepValue]
          split_ifs <;> rfl
      | _ => rfl

/-- To go on behind a statement declares nothing. -/
lemma stepDone_functions (m : Machine) (k : List Frame) :
    (m.stepDone k).All (·.functions = m.functions) := by
  cases k with
  | nil => trivial
  | cons f k =>
      cases f with
      | body l =>
          rw [stepDone]
          split <;> rfl
      | call => exact leave_functions m _ k
      | _ => rfl

/-- To pass a returned value on declares nothing. -/
lemma stepReturned_functions (m : Machine) (v : Value) (k : List Frame) :
    (m.stepReturned v k).All (·.functions = m.functions) := by
  cases k with
  | nil => trivial
  | cons f k =>
      cases f with
      | call => exact leave_functions m _ k
      | _ => rfl

/-- To pass a failure on declares nothing. -/
lemma stepFailed_functions (m : Machine) (e : Failure) (k : List Frame) :
    (m.stepFailed e k).All (·.functions = m.functions) := by
  cases k with
  | nil => trivial
  | cons f k =>
      cases f with
      | call => exact leave_functions m _ k
      | _ => rfl

/-- **A step** declares what stands in its control, and leaves the functions alone otherwise. -/
lemma step_functions (m : Machine) (limit : Nat) (c : Bool) :
    (m.step limit c).All (·.functions = m.functions.declare m.declared) := by
  obtain ⟨control, k, scopes, functions, calls⟩ := m
  cases control with
  | eval e => exact stepEval_functions _ k e
  | exec st => exact stepExec_functions _ k st
  | block body => cases body <;> rfl
  | assign a => cases a <;> rfl
  | branches bs =>
      rw [step.eq_def]
      dsimp only
      split <;> first | contradiction | rfl
  | round l => cases c <;> rfl
  | enter span name args => exact stepEnter_functions _ c k span name args
  | await name => exact ⟨rfl, rfl⟩
  | value v => exact stepValue_functions _ v k
  | done => exact stepDone_functions _ k
  | returned v => exact stepReturned_functions _ v k
  | failed e => exact stepFailed_functions _ e k

/-- To take an answer declares nothing. -/
@[simp] lemma answer_functions (m : Machine) (c : Bool) (a : Answer) :
    (m.answer c a).functions = m.functions := by
  rw [answer.eq_def]
  split
  · split
    · rfl
    · split_ifs <;> rfl
  · rfl

/-- **A move declares** what its machine is about to declare. -/
lemma move_functions {m m' : Machine} {s s' : σ} (hm : m.move h limit s = some (m', s')) :
    m'.functions = m.functions.declare m.declared :=
  (step_functions m limit _).move (fun _ _ _ _ _ _ h => (answer_functions ..).trans h) hm

/-- **What a path declares** is all that it does to the functions. -/
lemma Path.functions_eq {n : Nat} {m m' : Machine} {s s' : σ} (hp : Path h limit n m s m' s') :
    m'.functions = m.functions.declare (m.declarations h limit n s) := by
  induction hp with
  | refl m s => rfl
  | @step n m m₁ m' s s₁ s' hm _ ih =>
      have happend : m.declarations h limit (n + 1) s
          = m.declared ++ m₁.declarations h limit n s₁ := by
        rw [declarations, hm]
      rw [ih, move_functions hm, happend, Table.declare, Table.declare, Table.declare,
        List.foldl_append]

/-- Along a path the latest declaration of a name counts, and else what was there. -/
lemma Path.get?_functions {n : Nat} {m m' : Machine} {s s' : σ}
    (hp : Path h limit n m s m' s') (name : Text) :
    m'.functions.get? name
      = (latest name (m.declarations h limit n s)).or (m.functions.get? name) := by
  rw [hp.functions_eq, Table.get?_declare]

/-- A function that was declared stays declared. -/
lemma Path.has_functions {n : Nat} {m m' : Machine} {s s' : σ} (hp : Path h limit n m s m' s')
    {name : Text} (hname : m.functions.has name = true) : m'.functions.has name = true := by
  rw [Table.has] at hname ⊢
  rw [hp.get?_functions, Option.isSome_or, hname, Bool.or_true]

/-- A finished run is a path. -/
lemma Finishes.path {base : List Frame} {m m' : Machine} {s s' : σ}
    (hf : Finishes h limit base m s m' s') : ∃ n, Path h limit n m s m' s' := by
  induction hf with
  | here => exact ⟨0, .refl _ _⟩
  | later _ hm _ ih =>
      obtain ⟨n, hp⟩ := ih
      exact ⟨n + 1, .step hm hp⟩

end Machine

/-! ### Where declarations come from -/

/-- The statements and branches that a control holds. Expressions declare nothing. -/
def Control.roots : Control → List TreeNode
  | .exec st => [.stmt st]
  | .block body => body.map .stmt
  | .branches bs => bs.map .branch
  | .round l => l.body.map .stmt
  | _ => []

/-- The statements and branches that a frame holds. -/
def Frame.roots : Frame → List TreeNode
  | .select taken rest => taken.map .stmt ++ rest.map .branch
  | .test l | .body l | .again l => l.body.map .stmt
  | .sequence rest => rest.map .stmt
  | _ => []

/-- **A node that is held** by work that starts on a control: it stands in the statements of the
control, or in the body of a function that is declared already. -/
def Held (functions : Table Function) (c : Control) (n : TreeNode) : Prop :=
  (∃ r ∈ c.roots, r.Within n)
    ∨ ∃ name f, functions.get? name = some f ∧ ∃ st ∈ f.body, (TreeNode.stmt st).Within n

/-- **A class of nodes that is closed**: it has the parts of its nodes and the bodies of the functions
`old`. -/
structure Closed (old : Table Function) (C : TreeNode → Prop) : Prop where
  parts : ∀ n, C n → ∀ k ∈ n.parts, C k
  bodies : ∀ name f, old.get? name = some f → ∀ st ∈ f.body, C (.stmt st)

/-- The nodes that a machine holds are closed under parts and bodies. -/
lemma closed_held (functions : Table Function) (c : Control) :
    Closed functions (Held functions c) where
  parts := by
    rintro n (⟨r, hr, hn⟩ | ⟨name, f, hf, st, hst, hn⟩) k hk
    · exact Or.inl ⟨r, hr, hn.tail hk⟩
    · exact Or.inr ⟨name, f, hf, st, hst, hn.tail hk⟩
  bodies name f hf st hst := Or.inr ⟨name, f, hf, st, hst, .refl⟩

/-- Functions that are the old ones, or declared by nodes of a class. -/
def Sourced (C : TreeNode → Prop) (old functions : Table Function) : Prop :=
  ∀ name f, functions.get? name = some f →
    old.get? name = some f ∨ (f.name = name ∧ C f.node)

/-- **Work above the frames `base`** that holds and declares nodes of a class only. -/
structure Declares (C : TreeNode → Prop) (old : Table Function) (base : List Frame) (m : Machine) :
    Prop where
  control : ∀ n ∈ m.control.roots, C n
  frames : ∃ k, m.frames = k ++ base ∧ ∀ f ∈ k, ∀ n ∈ f.roots, C n
  functions : Sourced C old m.functions

namespace Declares

variable {C : TreeNode → Prop} {old : Table Function} {base k : List Frame} {m : Machine}
  {limit : Nat}

/-- Going on under the same frames. -/
lemma resume (hf : Sourced C old m.functions) (hk : ∀ f ∈ k, ∀ n ∈ f.roots, C n) {c : Control}
    (hc : ∀ n ∈ c.roots, C n) : (m.resume c (k ++ base)).All (Declares C old base) :=
  ⟨hc, ⟨k, rfl, hk⟩, hf⟩

/-- Going on with a control that holds nothing. -/
lemma rest (hf : Sourced C old m.functions) (hk : ∀ f ∈ k, ∀ n ∈ f.roots, C n) {c : Control}
    (hc : c.roots = []) : (m.resume c (k ++ base)).All (Declares C old base) :=
  resume hf hk (by simp [hc])

/-- Going on under a further frame. -/
lemma cover (hf : Sourced C old m.functions) (hk : ∀ f ∈ k, ∀ n ∈ f.roots, C n) (f : Frame)
    (hroots : ∀ n ∈ f.roots, C n) {c : Control} (hc : ∀ n ∈ c.roots, C n) :
    (m.resume c (f :: (k ++ base))).All (Declares C old base) :=
  ⟨hc, ⟨f :: k, rfl, List.forall_mem_cons.mpr ⟨hroots, hk⟩⟩, hf⟩

/-- Going on with a control that holds nothing, under a further frame that holds nothing. -/
lemma descend (hf : Sourced C old m.functions) (hk : ∀ f ∈ k, ∀ n ∈ f.roots, C n) {f : Frame}
    (hroots : f.roots = []) {c : Control} (hc : c.roots = []) :
    (m.resume c (f :: (k ++ base))).All (Declares C old base) :=
  cover hf hk f (by simp [hroots]) (by simp [hc])

/-- The evaluation of an expression holds no statements. -/
lemma stepEval (hf : Sourced C old m.functions) (hk : ∀ f ∈ k, ∀ n ∈ f.roots, C n) (e : Expr) :
    (m.stepEval (k ++ base) e).All (Declares C old base) := by
  cases e with
  | identifier span name =>
      rw [Machine.stepEval]
      split <;> exact rest hf hk rfl
  | binary span op l r => exact descend hf hk rfl rfl
  | call span name args =>
      rw [Machine.stepEval.eq_def]
      dsimp only
      split
      · cases args with
        | nil => exact rest hf hk rfl
        | cons e es => exact descend hf hk rfl rfl
      · exact rest hf hk rfl
  | _ => exact rest hf hk rfl

/-- A statement is taken apart, or adds a function. -/
lemma stepExec (hC : Closed old C) (hf : Sourced C old m.functions)
    (hk : ∀ f ∈ k, ∀ n ∈ f.roots, C n) {st : Stmt} (hst : C (.stmt st)) :
    (m.stepExec (k ++ base) st).All (Declares C old base) := by
  have hparts := hC.parts _ hst
  cases st with
  | absent | assign => exact rest hf hk rfl
  | print | call => exact descend hf hk rfl rfl
  | input span name => exact ⟨rfl, rest (c := .await name) hf hk rfl⟩
  | choose span bs => exact resume hf hk hparts
  | loop span c body => exact resume hf hk (List.forall_mem_cons.mp hparts).2
  | count span init c inc body =>
      have hbody : ∀ n ∈ body.map TreeNode.stmt, C n := fun n hn => hparts n (by
        rw [TreeNode.parts]
        exact List.mem_append_right _ (List.mem_cons_of_mem _ (List.mem_append_right _ hn)))
      exact cover hf hk (.again ⟨c, body, some inc⟩) hbody (List.forall_mem_nil _)
  | function span name params body =>
      refine ⟨List.forall_mem_nil _, ⟨k, rfl, hk⟩, fun name' f hget => ?_⟩
      rw [Table.get?_set] at hget
      split_ifs at hget with hname
      · obtain rfl := Option.some.inj hget
        exact Or.inr ⟨(eq_of_beq hname).symm, hst⟩
      · exact hf name' f hget
  | giveBack span e =>
      cases e with
      | absent => exact rest hf hk rfl
      | _ => exact descend hf hk rfl rfl

/-- The body of a function is taken from the table. -/
lemma stepEnter (hC : Closed old C) (hf : Sourced C old m.functions)
    (hk : ∀ f ∈ k, ∀ n ∈ f.roots, C n) (c : Bool) (span : Span) (name : Text) (args : List Value) :
    (m.stepEnter limit c (k ++ base) span name args).All (Declares C old base) := by
  rw [Machine.stepEnter]
  split
  next => exact rest hf hk rfl
  next f hget =>
    split_ifs
    · exact rest hf hk rfl
    · exact rest hf hk rfl
    · have hbody : ∀ n ∈ f.body.map TreeNode.stmt, C n := by
        obtain hold | ⟨-, hnode⟩ := hf name f hget
        · exact List.forall_mem_map.mpr (hC.bodies name f hold)
        · exact hC.parts _ hnode
      exact ⟨hbody, ⟨.call :: k, rfl, List.forall_mem_cons.mpr ⟨List.forall_mem_nil _, hk⟩⟩, hf⟩

/-- What stands below a call that is left goes on to be held. -/
lemma leave (hf : Sourced C old m.functions) (hk : ∀ f ∈ k, ∀ n ∈ f.roots, C n) {c : Control}
    (hc : c.roots = []) : (m.leave c (k ++ base)).All (Declares C old base) := by
  rw [Machine.leave.eq_def]
  split
  · exact ⟨by simp [hc], ⟨k, rfl, hk⟩, hf⟩
  · split <;> exact rest hf hk rfl

/-- With a value, what the frame on top holds comes under control. -/
lemma stepValue (hf : Sourced C old m.functions) {f : Frame} (hroots : ∀ n ∈ f.roots, C n)
    (hk : ∀ f ∈ k, ∀ n ∈ f.roots, C n) (v : Value) :
    (m.stepValue v (f :: (k ++ base))).All (Declares C old base) := by
  cases f with
  | right => exact descend hf hk rfl rfl
  | operate span op left =>
      rw [Machine.stepValue]
      split <;> exact rest hf hk rfl
  | arguments span name ready es =>
      cases es with
      | nil => exact rest hf hk rfl
      | cons e es => exact descend hf hk rfl rfl
  | bind | print => exact ⟨List.forall_mem_nil _, ⟨k, rfl, hk⟩, hf⟩
  | select taken more =>
      obtain ⟨htaken, hmore⟩ := List.forall_mem_append.mp hroots
      rw [Machine.stepValue]
      split_ifs
      · exact resume hf hk htaken
      · exact resume hf hk hmore
  | test l =>
      rw [Machine.stepValue]
      split_ifs
      · exact cover hf hk (.body l) hroots hroots
      · exact rest hf hk rfl
  | _ => exact rest hf hk rfl

/-- So it does behind a statement. -/
lemma stepDone (hf : Sourced C old m.functions) {f : Frame} (hroots : ∀ n ∈ f.roots, C n)
    (hk : ∀ f ∈ k, ∀ n ∈ f.roots, C n) :
    (m.stepDone (f :: (k ++ base))).All (Declares C old base) := by
  cases f with
  | sequence | again => exact resume hf hk hroots
  | body l =>
      rw [Machine.stepDone]
      split
      · exact resume hf hk hroots
      · exact cover hf hk (.again l) hroots (List.forall_mem_nil _)
  | call => exact leave hf hk rfl
  | _ => exact rest hf hk rfl

lemma stepReturned (hf : Sourced C old m.functions) (f : Frame)
    (hk : ∀ f ∈ k, ∀ n ∈ f.roots, C n) (v : Value) :
    (m.stepReturned v (f :: (k ++ base))).All (Declares C old base) := by
  cases f with
  | call => exact leave hf hk rfl
  | _ => exact rest hf hk rfl

lemma stepFailed (hf : Sourced C old m.functions) (f : Frame)
    (hk : ∀ f ∈ k, ∀ n ∈ f.roots, C n) (e : Failure) :
    (m.stepFailed e (f :: (k ++ base))).All (Declares C old base) := by
  cases f with
  | call => exact leave hf hk rfl
  | _ => exact rest hf hk rfl

/-- Branches are taken apart one by one. -/
lemma branches (hC : Closed old C) (hf : Sourced C old m.functions)
    (hk : ∀ f ∈ k, ∀ n ∈ f.roots, C n) (hm : m.frames = k ++ base) {b : Branch} {bs : List Branch}
    (hcontrol : m.control = .branches (b :: bs)) (hb : C (.branch b))
    (hbs : ∀ n ∈ bs.map TreeNode.branch, C n) (c : Bool) :
    (m.step limit c).All (Declares C old base) := by
  have hparts := hC.parts _ hb
  rw [Machine.step, hcontrol]
  cases b with
  | absent =>
      dsimp only
      rw [hm]
      exact resume hf hk hbs
  | mk span condition body =>
      have hbody : ∀ n ∈ body.map TreeNode.stmt, C n := by
        intro n hn
        cases condition with
        | absent => exact hparts n hn
        | _ => exact hparts n (List.mem_cons_of_mem _ hn)
      have hselect : ∀ n ∈ (Frame.select body bs).roots, C n :=
        List.forall_mem_append.mpr ⟨hbody, hbs⟩
      cases condition with
      | absent =>
          dsimp only
          rw [hm]
          exact resume hf hk hbody
      | _ =>
          dsimp only
          rw [hm]
          exact cover hf hk _ hselect (List.forall_mem_nil _)

/-- **Every step of unfinished work** takes apart what is held. -/
lemma step (hC : Closed old C) (hm : Declares C old base m) (hopen : ¬m.Finished base) (c : Bool) :
    (m.step limit c).All (Declares C old base) := by
  obtain ⟨hc, ⟨k, hframes, hk⟩, hf⟩ := hm
  obtain ⟨control, frames, scopes, functions, calls⟩ := m
  obtain rfl : frames = k ++ base := hframes
  cases control with
  | eval e => exact stepEval hf hk e
  | exec st => exact stepExec hC hf hk (hc _ (List.mem_singleton_self _))
  | block body =>
      cases body with
      | nil => exact rest hf hk rfl
      | cons st body =>
          obtain ⟨hst, hbody⟩ := List.forall_mem_cons.mp hc
          exact cover hf hk (.sequence body) hbody (List.forall_mem_singleton.mpr hst)
  | assign a =>
      cases a with
      | none => exact rest hf hk rfl
      | some a => exact descend hf hk rfl rfl
  | branches bs =>
      cases bs with
      | nil => exact rest hf hk rfl
      | cons b bs =>
          obtain ⟨hb, hbs⟩ := List.forall_mem_cons.mp hc
          exact branches hC hf hk rfl rfl hb hbs c
  | round l =>
      cases c with
      | true => exact rest hf hk rfl
      | false => exact cover hf hk (.test l) hc (List.forall_mem_nil _)
  | enter span name args => exact stepEnter hC hf hk c span name args
  | await name => exact ⟨rfl, List.forall_mem_nil _, ⟨k, rfl, hk⟩, hf⟩
  | value v =>
      obtain ⟨f, k, rfl⟩ := Nested.exists_frame rfl rfl hopen
      obtain ⟨hroots, hk⟩ := List.forall_mem_cons.mp hk
      exact stepValue hf hroots hk v
  | done =>
      obtain ⟨f, k, rfl⟩ := Nested.exists_frame rfl rfl hopen
      obtain ⟨hroots, hk⟩ := List.forall_mem_cons.mp hk
      exact stepDone hf hroots hk
  | returned v =>
      obtain ⟨f, k, rfl⟩ := Nested.exists_frame rfl rfl hopen
      exact stepReturned hf f (List.forall_mem_cons.mp hk).2 v
  | failed e =>
      obtain ⟨f, k, rfl⟩ := Nested.exists_frame rfl rfl hopen
      exact stepFailed hf f (List.forall_mem_cons.mp hk).2 e

/-- An answer binds a name or fails. -/
lemma answer (hm : Declares C old base m) (c : Bool) (a : Machine.Answer) :
    Declares C old base (m.answer c a) := by
  have hplain : ∀ {c' : Control} {sc : Scopes}, c'.roots = [] →
      Declares C old base { m with control := c', scopes := sc } :=
    fun hc => ⟨by simp [hc], hm.frames, hm.functions⟩
  rw [Machine.answer.eq_def]
  split
  · split
    · exact hplain rfl
    · split_ifs
      · exact hplain rfl
      · exact hplain rfl
  · exact hm

/-- **Every move of unfinished work** takes apart what is held. -/
lemma move {h : Host σ} {m' : Machine} {s s' : σ} (hC : Closed old C) (hm : Declares C old base m)
    (hopen : ¬m.Finished base) (hmove : m.move h limit s = some (m', s')) :
    Declares C old base m' := by
  refine (hm.step hC hopen _).move ?_ hmove
  intro _ m₁ a _ _ _ h₁
  exact h₁.answer _ a

/-- **Finished work** has declared what it held at the start. -/
lemma of_finishes {h : Host σ} {c : Control} {sc : Scopes} {functions : Table Function} {calls : Nat}
    {s s' : σ} (hf : Machine.Finishes h limit base ⟨c, base, sc, functions, calls⟩ s m s') :
    Sourced (Held functions c) functions m.functions := by
  have hC := closed_held functions c
  have hstart : Declares (Held functions c) functions base ⟨c, base, sc, functions, calls⟩ :=
    ⟨fun n hn => Or.inl ⟨n, hn, .refl⟩, ⟨[], rfl, List.forall_mem_nil _⟩, fun _ _ => Or.inl⟩
  exact (hf.invariant (fun _ _ _ _ hopen hm hmove => hm.move hC hopen hmove) hstart).1.functions

end Declares

namespace Machine

/-- A call whose first step does not fail has found the name. -/
lemma has_of_call {limit : Nat} {m : Machine} {span : Span} {name : Text} {args : List Expr} {c : Bool}
    (hcontrol : m.control = .eval (.call span name args))
    (hstep : m.step limit c ≠ m.fail (.unknownFunction name) span m.frames) :
    m.functions.has name = true := by
  by_contra hname
  refine hstep ?_
  rw [step, hcontrol]
  dsimp only
  rw [stepEval.eq_def]
  dsimp only
  rw [if_neg hname]

end Machine

/-- **No function is lost, and a checked call enters the one declared last.**

However work on an expression, a statement or a block ends, the functions declared before are
declared, and each function is the one before, or its declaration stands in the statements that were
carried out or in the body of a function before. Along a run the latest declaration of a name counts.
So where a call has found its name, every later entry of that name finds the function that was
declared last, and fails only by the bound on the nesting of calls or a cancellation. -/
theorem functions_grow (h : Host σ) (limit : Nat) :
    (∀ base c sc functions calls m s s',
      Machine.Finishes h limit base ⟨c, base, sc, functions, calls⟩ s m s' →
      (∀ name, functions.has name = true → m.functions.has name = true)
        ∧ ∀ name f, m.functions.get? name = some f →
          functions.get? name = some f ∨ (f.name = name ∧ Held functions c f.node))
    ∧ (∀ n m m' s s', Machine.Path h limit n m s m' s' → ∀ name, m'.functions.get? name
        = (latest name (m.declarations h limit n s)).or (m.functions.get? name))
    ∧ ∀ n m m' s s' span name args span' values, m.control = .eval (.call span name args) →
      (∀ c, m.step limit c ≠ m.fail (.unknownFunction name) span m.frames) →
      Machine.Path h limit n m s m' s' → m'.control = .enter span' name values →
      ∃ f, (latest name (m.declarations h limit n s)).or (m.functions.get? name) = some f
        ∧ ∀ c, m'.step limit c =
          if limit ≤ m'.calls then m'.fail (.depthExceeded name) span' m'.frames
          else if c then m'.resume (.failed .canceled) m'.frames
          else .next { m' with
            control := .block f.body, frames := .call :: m'.frames,
            scopes := m'.scopes.push (f.bindings values), calls := m'.calls + 1 } := by
  refine ⟨?_, fun n m m' s s' hp name => hp.get?_functions name, ?_⟩
  · intro base c sc functions calls m s s' hf
    obtain ⟨n, hp⟩ := hf.path
    exact ⟨fun name hname => hp.has_functions hname, Declares.of_finishes hf⟩
  · intro n m m' s s' span name args span' values hcontrol hfound hp henter
    have hname := Machine.has_of_call hcontrol (hfound false)
    obtain ⟨f, hget⟩ := Option.isSome_iff_exists.mp (hp.has_functions hname)
    refine ⟨f, (hp.get?_functions name).symm.trans hget, fun c => ?_⟩
    rw [Machine.step, henter]
    dsimp only
    rw [Machine.stepEnter, hget]

/-- A call of `f` whose argument is a call of `g`, and the body of `g` declares `f` again. -/
def redeclaring : Machine :=
  ⟨.eval (.call none [0x66] [.call none [0x67] []]), [], .empty,
    [([0x66], ⟨none, [0x66], [[0x61]], []⟩),
     ([0x67], ⟨none, [0x67], [], [.function none [0x66] [] [.input none [0x62]]]⟩)], 0⟩

/-- The call enters the `f` that was declared while its argument was evaluated. -/
theorem functions_grow_redeclared :
    ∃ m' s', Machine.Path (Queue.host {}) 1 9 redeclaring ⟨[], [], false⟩ m' s'
      ∧ m'.control = .enter none [0x66] [.undefined]
      ∧ m'.step 1 false = .next { m' with
          control := .block [.input none [0x62]], frames := [.call],
          scopes := m'.scopes.push [], calls := 1 } := by
  obtain ⟨m', s', hp, hm'⟩ : ∃ m' s', Machine.Path (Queue.host {}) 1 9 redeclaring
      ⟨[], [], false⟩ m' s' ∧ m' = { redeclaring with
        control := .enter none [0x66] [.undefined],
        functions := redeclaring.functions.declare [⟨none, [0x66], [], [.input none [0x62]]⟩] } :=
    ⟨_, _, .step rfl (.step rfl (.step rfl (.step rfl (.step rfl (.step rfl (.step rfl (.step rfl
      (.step rfl (.refl _ _))))))))), rfl⟩
  have hcontrol : m'.control = .enter none [0x66] [.undefined] := by rw [hm']
  have hfound : ∀ c, redeclaring.step 1 c ≠ redeclaring.fail (.unknownFunction [0x66]) none [] := by
    intro c heq
    exact Control.noConfusion (congrArg Machine.control (Step.next.inj heq))
  obtain ⟨f, hf, hstep⟩ := (functions_grow (Queue.host {}) 1).2.2 9 redeclaring m' _ s' none [0x66]
    [.call none [0x67] []] none [.undefined] rfl hfound hp hcontrol
  obtain rfl : ⟨none, [0x66], [], [.input none [0x62]]⟩ = f := Option.some.inj hf
  refine ⟨m', s', hp, hcontrol, (hstep false).trans ?_⟩
  rw [hm']
  rfl

end LessonLang
