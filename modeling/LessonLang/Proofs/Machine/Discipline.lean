import LessonLang.Proofs.Machine.Nested

/-!
Scope discipline: what runs leave behind in the scopes.

* An expression leaves all scopes as it found them, and a statement or a block rebinds names of
  the innermost one at most, however they end (`Nested.of_finishes`).
* `Interpreter.Reached` collects the interpreters that runs and calls, failed ones included, lead
  to from a fresh one.
* Along every run and call on a reached interpreter one scope is open for every call besides the
  global one, and their number is bounded (`Interpreter.Reached.nested`). A reached interpreter is
  left with the global scope alone, and a call leaves the global variables as they were.
-/

namespace LessonLang

variable {σ : Type}

namespace Nested

variable {h : Host σ} {limit calls : Nat} {base : List Frame} {sc : Scopes} {u : Task} {c : Control}
  {functions : Table Function} {m : Machine} {s s' : σ}

/-- **Finished work**: the scopes around the innermost one are untouched, and that one is as the
task allows. -/
lemma of_finishes (hc : c.task? = some u)
    (hf : Machine.Finishes h limit base ⟨c, base, sc, functions, calls⟩ s m s') :
    m.scopes.outer = sc.outer ∧ Rebound u sc.inner m.scopes.inner := by
  obtain ⟨hn, hend⟩ := hf.invariant (fun _ _ _ _ hopen hn hm => hn.move hopen hm)
    (Nested.start hc functions : Nested limit base sc calls u _)
  exact hn.finish hend.2

lemma scopes_of_finishes (hc : c.task? = some .value)
    (hf : Machine.Finishes h limit base ⟨c, base, sc, functions, calls⟩ s m s') :
    m.scopes = sc := by
  obtain ⟨houter, hinner⟩ := of_finishes hc hf
  cases hm : m.scopes with
  | mk inner outer =>
      rw [hm] at houter hinner
      obtain rfl : outer = sc.outer := houter
      obtain rfl : inner = sc.inner := hinner
      rfl

/-- Above no frame every move is one of unfinished work. -/
lemma move_nil {m' : Machine} (hn : Nested limit [] sc calls u m)
    (hm : m.move h limit s = some (m', s')) : Nested limit [] sc calls u m' := by
  refine hn.move ?_ hm
  rw [← @Machine.move_eq_none_iff _ h limit _ s, hm]
  simp

lemma of_path {n : Nat} {m₀ : Machine} (hn : Nested limit [] sc calls u m₀)
    (hp : Machine.Path h limit n m₀ s m s') : Nested limit [] sc calls u m :=
  hp.invariant (fun _ _ _ _ hn hm => hn.move_nil hm) hn

end Nested

/-! ### Interpreters -/

namespace Interpreter

/-- **Interpreters that can come about**: fresh ones, and those that a run of a program or a call
of a function on one leads to, with any host and whether or not it fails. -/
inductive Reached : Interpreter → Prop where
  | new (limit : Option Int) : Reached (new limit)
  | run {σ : Type} {i : Interpreter} {h : Host σ} {fuel : Nat} {p : Option Program} {s : σ}
      {out : Outcome σ} (hi : Reached i) (ho : i.run h fuel p s = some out) :
      Reached out.interpreter
  | call {σ : Type} {i : Interpreter} {h : Host σ} {fuel : Nat} {name : Text} {args : List Value}
      {s : σ} {out : Outcome σ} (hi : Reached i) (ho : i.call h fuel name args s = some out) :
      Reached out.interpreter

/-- The machines that runs and calls on an interpreter start with. -/
inductive Starts (i : Interpreter) : Machine → Prop where
  | run (p : Program) : Starts i (.ofProgram p)
  | call (name : Text) (args : List Value) : Starts i (i.entry name args)

lemma finish_eq_some {i : Interpreter} {h : Host σ} {fuel : Nat} {m : Machine} {s : σ}
    {out : Outcome σ} (ho : i.finish h fuel m s = some out) :
    ∃ m' s', m.run h i.limit fuel s = some (m', s')
      ∧ out = ⟨m'.failure?, m'.result?, ⟨i.limit, m'.scopes, m'.functions⟩, s'⟩ := by
  obtain ⟨⟨m', s'⟩, hr, rfl⟩ := Option.map_eq_some_iff.mp ho
  exact ⟨m', s', hr, rfl⟩

/-- A run of a program has one outcome, however much fuel there is for it. -/
lemma run_unique {i : Interpreter} {h : Host σ} {fuel fuel' : Nat} {p : Program} {s : σ}
    {out out' : Outcome σ} (ho : i.run h fuel (some p) s = some out)
    (ho' : i.run h fuel' (some p) s = some out') : out = out' := by
  obtain ⟨m, s₁, hr, rfl⟩ := finish_eq_some ho
  obtain ⟨m', s₂, hr', rfl⟩ := finish_eq_some ho'
  obtain ⟨rfl, rfl⟩ := Prod.mk.inj (Machine.run_unique hr hr')
  rfl

/-- A call leaves all scopes as they were. -/
lemma scopes_of_call {i : Interpreter} {h : Host σ} {fuel : Nat} {name : Text} {args : List Value}
    {s : σ} {out : Outcome σ} (ho : i.call h fuel name args s = some out) :
    out.interpreter.scopes = i.scopes := by
  obtain ⟨m, s', hr, rfl⟩ := finish_eq_some ho
  exact Nested.scopes_of_finishes rfl (Machine.finishes_of_run hr)

lemma outer_of_run {i : Interpreter} {h : Host σ} {fuel : Nat} {p : Option Program} {s : σ}
    {out : Outcome σ} (hi : i.scopes.outer = []) (ho : i.run h fuel p s = some out) :
    out.interpreter.scopes.outer = [] := by
  cases p with
  | none =>
      obtain rfl := Option.some.inj ho
      exact hi
  | some p =>
      obtain ⟨m, s', hr, rfl⟩ := finish_eq_some ho
      exact (Nested.of_finishes (u := .statement) rfl (Machine.finishes_of_run hr)).1

namespace Reached

variable {i : Interpreter}

/-- Between runs the global scope is the only one. -/
lemma outer_eq_nil (hi : Reached i) : i.scopes.outer = [] := by
  induction hi with
  | new limit => rfl
  | run _ ho ih => exact outer_of_run ih ho
  | call _ ho ih =>
      rw [scopes_of_call ho]
      exact ih

/-- **The invariant of a run or a call**: its start is work above no frame, in the global scope. -/
lemma nested (hi : Reached i) {m₀ m : Machine} (hs : i.Starts m₀) {h : Host σ} {n : Nat} {s s' : σ}
    (hp : Machine.Path h i.limit n m₀ s m s') :
    ∃ u sc, sc.outer = [] ∧ Nested i.limit [] sc 0 u m := by
  cases hs with
  | run p => exact ⟨.statement, .empty, rfl, (Nested.start rfl _).of_path hp⟩
  | call name args => exact ⟨.value, i.scopes, hi.outer_eq_nil, (Nested.start rfl _).of_path hp⟩

end Reached

end Interpreter

/-! ### The number of scopes -/

lemma openCalls_pos {k : List Frame} (hk : .call ∈ k) : 0 < openCalls k := by
  induction k with
  | nil => exact absurd hk (by simp)
  | cons f k ih =>
      rw [openCalls]
      obtain rfl | hk := List.mem_cons.mp hk
      · exact Nat.add_pos_left Nat.one_pos _
      · exact Nat.add_pos_right _ (ih hk)

/-- Work in the global scope has one more scope open for every call, and can close those. -/
lemma Nested.depth_eq {limit : Nat} {sc : Scopes} {u : Task} {m : Machine} (hsc : sc.outer = [])
    (hn : Nested limit [] sc 0 u m) :
    m.scopes.depth = 1 + m.calls ∧ m.calls ≤ limit
      ∧ (.call ∈ m.frames → m.scopes.pop?.isSome = true) := by
  obtain ⟨t, k, hm, -, -, hs⟩ := hn
  have hdepth : m.scopes.depth = openCalls k + 1 := by
    rw [hs.opened.depth, Scopes.depth, hsc, List.length_nil]
  have hcalls := hs.calls_eq
  refine ⟨by omega, ?_, ?_⟩
  · exact hs.calls_le.trans (Nat.zero_max limit).le
  · intro hcall
    rw [hm, List.append_nil] at hcall
    have hpos : 0 < m.scopes.outer.length := by
      rw [Scopes.depth] at hdepth
      have := openCalls_pos hcall
      omega
    obtain ⟨t, rest, hrest⟩ := List.exists_cons_of_length_pos hpos
    rw [Scopes.pop?, hrest]
    rfl

/-- **Scope discipline.** An expression leaves all scopes as they were, and a statement or a block
leaves all but the innermost one as they were and only binds names in that one, whatever they come
to and whatever is left to do behind them. On every interpreter that can come about, and at every
moment of a run or a call, the scopes are the global one and one for each open call, their number
is bounded, and the scope of an open call can be closed. Between runs only the global scope is
there, and calls leave it as it was. -/
theorem scope_discipline (h : Host σ) :
    (∀ limit base e sc functions calls s m s',
      Machine.Finishes h limit base ⟨.eval e, base, sc, functions, calls⟩ s m s' → m.scopes = sc)
    ∧ (∀ limit base c sc functions calls s m s',
      ((∃ st, c = .exec st) ∨ ∃ body, c = .block body) →
      Machine.Finishes h limit base ⟨c, base, sc, functions, calls⟩ s m s' →
      m.scopes.outer = sc.outer ∧ ∃ bs, m.scopes.inner = sc.inner.rebind bs)
    ∧ ∀ i : Interpreter, i.Reached →
      (∀ m₀ n s m s', i.Starts m₀ → Machine.Path h i.limit n m₀ s m s' →
        m.scopes.depth = 1 + m.calls ∧ m.scopes.depth ≤ 1 + i.limit
          ∧ (.call ∈ m.frames → m.scopes.pop?.isSome = true))
      ∧ i.scopes.depth = 1
      ∧ ∀ fuel name args s out, i.call h fuel name args s = some out →
        out.interpreter.scopes = i.scopes := by
  refine ⟨?_, ?_, ?_⟩
  · intro limit base e sc functions calls s m s' hf
    exact Nested.scopes_of_finishes rfl hf
  · intro limit base c sc functions calls s m s' hc hf
    have htask : c.task? = some .statement := by
      obtain ⟨st, rfl⟩ | ⟨body, rfl⟩ := hc <;> rfl
    exact Nested.of_finishes htask hf
  · intro i hi
    refine ⟨?_, ?_, ?_⟩
    · intro m₀ n s m s' hs hp
      obtain ⟨u, sc, hsc, hn⟩ := hi.nested hs hp
      obtain ⟨hdepth, hcalls, hpop⟩ := hn.depth_eq hsc
      exact ⟨hdepth, by omega, hpop⟩
    · rw [Scopes.depth, hi.outer_eq_nil, List.length_nil]
    · intro fuel name args s out ho
      exact Interpreter.scopes_of_call ho

/-- A program whose function binds a name of its own and then fails, in an argument of a call. -/
def failingProgram : Program :=
  ⟨none,
    [.function none [0x66] [[0x61]]
      [.assign ⟨none, [0x62], .identifier none [0x61], false⟩,
       .call none [0x66] [.identifier none [0x63]]],
     .assign ⟨none, [0x67], .string none [0x78], true⟩]⟩

/-- A call of its function by the host, which fails and leaves the one global variable alone. -/
theorem scope_discipline_failing :
    ∃ i : Interpreter, i.Reached ∧ i.scopes = ⟨[([0x67], .string [0x78])], []⟩
      ∧ ∃ out, i.call (Queue.host {}) 20 [0x66] [.undefined] ⟨[], [], false⟩ = some out
        ∧ out.failure = some (.ofNode (.unknownVariable [0x63]) none)
        ∧ out.interpreter.scopes = i.scopes := by
  have hrun : ∃ out, (Interpreter.new none).run (Queue.host {}) 20 (some failingProgram)
      ⟨[], [], false⟩ = some out
      ∧ out.interpreter.scopes = ⟨[([0x67], .string [0x78])], []⟩
      ∧ ∃ out', out.interpreter.call (Queue.host {}) 20 [0x66] [.undefined] ⟨[], [], false⟩
          = some out'
        ∧ out'.failure = some (.ofNode (.unknownVariable [0x63]) none) := ⟨_, rfl, rfl, _, rfl, rfl⟩
  obtain ⟨out, hrun, hscopes, out', hcall, hfailure⟩ := hrun
  have hi : out.interpreter.Reached := .run (.new none) hrun
  exact ⟨_, hi, hscopes, out', hcall, hfailure,
    ((scope_discipline (Queue.host {})).2.2 _ hi).2.2 _ _ _ _ _ hcall⟩

end LessonLang
