import Mathlib
import LessonLang.Proofs.Flat.Simulation
import LessonLang.Proofs.Machine.Discipline

/-!
Scopes refine a flat environment.

* Where an evaluation ends, the machine that follows it halts (`Setup.Arrives.run_eq`); where the
  fuel of an evaluation is used up, the machine does not halt within as many moves
  (`Setup.Reach.run_eq_none`). As both are functions, the ends of the two are the same.
* `scopes_refine_flat`: on every host a program comes to the same outcome in scopes and in a flat
  environment, and the value of an expression depends on the scopes through lookups alone.
-/

namespace LessonLang

namespace Flat

variable {σ α : Type}

namespace Setup

variable {w : Setup σ} {outer : List (Table Value)} {d n : Nat} {control : α → Control}
  {m : Machine} {s : σ} {c : Control} {st : Flat σ}

/-- The machine halts where it arrives above no frame. -/
lemma Arrives.run_eq (hc : c.settled = true) (ha : w.Arrives outer d [] m s c st) :
    ∃ fuel sc, sc.outer = outer ∧ Agree w.alone sc st.env
      ∧ m.run w.host w.limit fuel s = some (⟨c, [], sc, st.functions, d⟩, st.host) := by
  obtain ⟨n, sc, houter, hagree, hp⟩ := ha
  refine ⟨n + 1, sc, houter, hagree, ?_⟩
  rw [hp.run_eq, Machine.run_of_halt (Machine.move_eq_none_iff.mpr ⟨hc, rfl⟩)]

lemma Reach.run_eq_none {k : List Frame} {fuel : Nat}
    (hr : w.Reach outer d k n control m s (.error .exhausted, st)) (hfuel : fuel ≤ n) :
    m.run w.host w.limit fuel s = none := by
  obtain ⟨n', m', hn', hp⟩ := hr
  exact hp.run_eq_none (hfuel.trans hn')

end Setup

/-! ### Programs -/

section programs

variable (h : Host σ) (i : Interpreter) (p : Program) (s : σ)

/-- The machine follows the run of a program. -/
lemma reach_run (n : Nat) :
    Setup.Reach ⟨h, i.limit, true⟩ [] 0 [] n Flow.control (.ofProgram p) s (run h i.limit n p s) :=
  Setup.follow_block ((Follows.all ⟨h, i.limit, true⟩ n).exec 0) p.body [] .empty ⟨[], [], s⟩
    ⟨fun _ => rfl, fun _ _ => rfl⟩

variable {h i p s}

/-- The outcome of a machine that arrives at the end of a program. -/
lemma finish_of_arrives {c : Control} {st : Flat σ} (hc : c.settled = true)
    (ha : Setup.Arrives ⟨h, i.limit, true⟩ [] 0 [] (.ofProgram p) s c st) :
    ∃ fuel, i.run h fuel (some p) s
      = some ⟨Machine.failure? ⟨c, [], ⟨st.env, []⟩, st.functions, 0⟩,
          Machine.result? ⟨c, [], ⟨st.env, []⟩, st.functions, 0⟩,
          ⟨i.limit, ⟨st.env, []⟩, st.functions⟩, st.host⟩ := by
  obtain ⟨fuel, ⟨inner, outer⟩, rfl, hagree, hr⟩ := ha.run_eq hc
  obtain rfl := hagree.inner rfl rfl
  exact ⟨fuel, by rw [Interpreter.run, Interpreter.finish, hr]; rfl⟩

/-- An outcome in the flat environment is one in scopes. -/
lemma run_of_outcome {n : Nat} {out : Interpreter.Outcome σ}
    (ho : outcome i.limit (run h i.limit n p s) = some out) :
    ∃ fuel, i.run h fuel (some p) s = some out := by
  have hreach := reach_run h i p s n
  match hr : run h i.limit n p s, hreach with
  | (.ok .done, st), ha =>
      rw [hr] at ho
      obtain rfl := Option.some.inj ho
      exact finish_of_arrives rfl ha
  | (.ok (.returned v), st), ha =>
      rw [hr] at ho
      obtain rfl := Option.some.inj ho
      exact finish_of_arrives rfl ha
  | (.error (.failed f), st), ha =>
      rw [hr] at ho
      obtain rfl := Option.some.inj ho
      exact finish_of_arrives rfl ha
  | (.error .exhausted, st), _ =>
      rw [hr] at ho
      exact absurd ho (by simp [outcome])

/-- An evaluation without outcome used up its fuel. -/
lemma exhausted_of_outcome {limit : Nat} {r : Except Stop Flow × Flat σ}
    (ho : outcome limit r = none) : ∃ st, r = (.error .exhausted, st) := by
  match r with
  | (.ok .done, _) | (.ok (.returned _), _) | (.error (.failed _), _) =>
      exact absurd ho (by simp [outcome])
  | (.error .exhausted, st) => exact ⟨st, rfl⟩

/-- With as much fuel as a run in scopes has moves, the evaluator has an outcome. -/
lemma outcome_of_run {fuel : Nat} {out : Interpreter.Outcome σ}
    (ho : i.run h fuel (some p) s = some out) :
    outcome i.limit (run h i.limit fuel p s) = some out := by
  obtain ⟨m, s', hr, rfl⟩ := Interpreter.finish_eq_some ho
  cases hout : outcome i.limit (run h i.limit fuel p s) with
  | none =>
      obtain ⟨st, hst⟩ := exhausted_of_outcome hout
      have hreach := reach_run h i p s fuel
      rw [hst] at hreach
      rw [hreach.run_eq_none le_rfl] at hr
      exact absurd hr (by simp)
  | some out' =>
      obtain ⟨fuel', ho'⟩ := run_of_outcome hout
      obtain ⟨m', s'', hr', rfl⟩ := Interpreter.finish_eq_some ho'
      obtain ⟨rfl, rfl⟩ := Prod.mk.inj (Machine.run_unique hr hr')
      rfl

end programs

/-! ### Expressions -/

/-- What a machine comes to: its control, its functions and its host at the end. -/
def Settles (h : Host σ) (limit : Nat) (m : Machine) (s : σ) (c : Control)
    (functions : Table Function) (s' : σ) : Prop :=
  ∃ fuel m', m.run h limit fuel s = some (m', s') ∧ m'.control = c ∧ m'.functions = functions

/-- A name is found in the tables of all scopes behind one another where it is found in the
scopes. -/
lemma lookup?_eq_get?_flatten (sc : Scopes) (name : Text) :
    sc.lookup? name = Table.get? sc.tables.flatten name := by
  rw [Scopes.lookup?, ← Scopes.tables]
  induction sc.tables with
  | nil => rfl
  | cons t ts ih =>
      rw [List.findSome?_cons, ih, List.flatten_cons, Table.get?, Table.get?, Table.get?,
        List.lookup_append]
      cases List.lookup name t <;> rfl

/-- **Scopes in which every name has the same value** settle an expression alike: the machine
follows one evaluation in both of them. -/
lemma settles_of_lookup {h : Host σ} {limit : Nat} {sc₁ sc₂ : Scopes}
    (hlookup : ∀ name, sc₁.lookup? name = sc₂.lookup? name) {e : Expr}
    {functions functions' : Table Function} {d : Nat} {s s' : σ} {c : Control}
    (hs : Settles h limit ⟨.eval e, [], sc₁, functions, d⟩ s c functions' s') :
    Settles h limit ⟨.eval e, [], sc₂, functions, d⟩ s c functions' s' := by
  obtain ⟨fuel, m, hrun, rfl, rfl⟩ := hs
  have hagree₁ : Agree false sc₁ sc₁.tables.flatten := ⟨lookup?_eq_get?_flatten sc₁, by simp⟩
  have hagree₂ : Agree false sc₂ sc₁.tables.flatten :=
    ⟨fun name => (hlookup name).symm.trans (hagree₁.lookup name), by simp⟩
  let st : Flat σ := ⟨sc₁.tables.flatten, functions, s⟩
  have hfollow := (Follows.all ⟨h, limit, false⟩ fuel).eval d e []
  have hreach₁ := hfollow sc₁ st hagree₁
  have hreach₂ := hfollow sc₂ st hagree₂
  have hend : ∀ (c : Control) (st' : Flat σ), c.settled = true →
      Setup.Arrives ⟨h, limit, false⟩ sc₁.outer d [] ⟨.eval e, [], sc₁, functions, d⟩ s c st' →
      Setup.Arrives ⟨h, limit, false⟩ sc₂.outer d [] ⟨.eval e, [], sc₂, functions, d⟩ s c st' →
      Settles h limit ⟨.eval e, [], sc₂, functions, d⟩ s m.control m.functions s' := by
    intro c st' hc ha₁ ha₂
    obtain ⟨_, _, _, _, hrun₁⟩ := ha₁.run_eq hc
    obtain ⟨fuel₂, sc', _, _, hrun₂⟩ := ha₂.run_eq hc
    obtain ⟨rfl, rfl⟩ := Prod.mk.inj (Machine.run_unique hrun hrun₁)
    exact ⟨fuel₂, _, hrun₂, rfl, rfl⟩
  match hr : eval h limit fuel d e st, hreach₁, hreach₂ with
  | (.ok v, st'), ha₁, ha₂ => exact hend (.value v) st' rfl ha₁ ha₂
  | (.error (.failed f), st'), ha₁, ha₂ => exact hend (.failed f) st' rfl ha₁ ha₂
  | (.error .exhausted, st'), ha₁, _ =>
      have hnone := ha₁.run_eq_none le_rfl
      exact absurd (hrun.symm.trans hnone) (by simp)

/-- **Scopes refine a flat environment.** On every host, and for every bound on the nesting of
calls:

* a program comes to an outcome in scopes exactly if it does so in a flat environment, with the
  same failure and value, the same global variables and functions, and the same host, which has
  seen all that was printed and asked;
* while the evaluation in the flat environment still goes on, its host is one that the run in
  scopes comes by, not before it made as many moves as there was fuel;
* in scopes in which every name has the same value, every expression comes to the same. -/
theorem scopes_refine_flat (h : Host σ) (i : Interpreter) :
    (∀ (p : Program) (s : σ) (out : Interpreter.Outcome σ),
      (∃ fuel, outcome i.limit (run h i.limit fuel p s) = some out)
        ↔ ∃ fuel, i.run h fuel (some p) s = some out)
    ∧ (∀ (p : Program) (s : σ) (fuel : Nat) (st : Flat σ),
      run h i.limit fuel p s = (.error .exhausted, st) →
      ∃ n m, fuel ≤ n ∧ Machine.Path h i.limit n (.ofProgram p) s m st.host)
    ∧ ∀ sc₁ sc₂ : Scopes, (∀ name, sc₁.lookup? name = sc₂.lookup? name) →
      ∀ e functions d s c functions' s',
        Settles h i.limit ⟨.eval e, [], sc₁, functions, d⟩ s c functions' s'
          ↔ Settles h i.limit ⟨.eval e, [], sc₂, functions, d⟩ s c functions' s' := by
  refine ⟨?_, ?_, ?_⟩
  · intro p s out
    constructor
    · rintro ⟨fuel, ho⟩
      exact run_of_outcome ho
    · rintro ⟨fuel, ho⟩
      exact ⟨fuel, outcome_of_run ho⟩
  · intro p s fuel st hr
    have hreach := reach_run h i p s fuel
    rw [hr] at hreach
    exact hreach
  · intro sc₁ sc₂ hlookup e functions d s c functions' s'
    exact ⟨settles_of_lookup hlookup, settles_of_lookup fun name => (hlookup name).symm⟩

/-- A function with a parameter twice, which prints it, binds it and fails. -/
def twice : Function :=
  ⟨none, [0x66], [[0x61], [0x61]],
    [.print none (.identifier none [0x61]),
     .assign ⟨none, [0x61], .string none [0x7a], false⟩,
     .print none (.identifier none [0x63])]⟩

/-- A program that calls it, with a global variable of the same name. -/
def shadowing : Program :=
  ⟨none,
    [.function none twice.name twice.params twice.body,
     .assign ⟨none, [0x61], .string none [0x67], true⟩,
     .call none twice.name [.string none [0x78], .string none [0x79], .string none [0x77]]]⟩

/-- It prints the second argument, fails, and leaves the global variable as it was. -/
def shadowingOutcome : Interpreter.Outcome Queue :=
  ⟨some (.ofNode (.unknownVariable [0x63]) none), none,
    ⟨2000, ⟨[([0x61], .string [0x67])], []⟩, [(twice.name, twice)]⟩,
    ⟨[], [.output [0x79]], false⟩⟩

/-- That outcome on both sides, and a name in the same table once around an empty scope and once
alone. -/
theorem scopes_refine_flat_shadowing :
    (∃ fuel, (Interpreter.new none).run (Queue.host {}) fuel (some shadowing) ⟨[], [], false⟩
      = some shadowingOutcome)
    ∧ Settles (Queue.host {}) 2000
        ⟨.eval (.identifier none [0x61]), [], ⟨[([0x61], .undefined)], []⟩, [], 0⟩ ⟨[], [], false⟩
        (.value .undefined) [] ⟨[], [], false⟩ := by
  have hrefine := scopes_refine_flat (Queue.host {}) (Interpreter.new none)
  have hflat : outcome 2000 (run (Queue.host {}) 2000 10 shadowing ⟨[], [], false⟩)
      = some shadowingOutcome := by cbv
  refine ⟨(hrefine.1 _ _ _).mp ⟨10, hflat⟩, ?_⟩
  refine (hrefine.2.2 ⟨[], [[([0x61], .undefined)]]⟩ ⟨[([0x61], .undefined)], []⟩ (fun _ => rfl)
    _ _ _ _ _ _ _).mp ?_
  exact ⟨5, _, rfl, rfl, rfl⟩

end Flat

end LessonLang
