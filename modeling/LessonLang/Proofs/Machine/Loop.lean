import LessonLang.Proofs.Machine.Mirror

/-!
A counting loop means its expansion: its first assignment, and then a plain loop whose body ends
with the other one.

* `Counting.Stage` lists what is left to do behind the part of a counting loop that is under way,
  in the loop itself and in its expansion. `Counting.Matched` relates machines that work on the same
  part of both, or are about to start the same round.
* `Counting.joins_part`: whatever a part comes to, the machines join again. So `Counting.Matched`
  mirrors their moves (`Counting.mirrors`).
* `count_expansion`: the loop and its expansion are interchangeable wherever they stand, and neither
  carries out the assignment behind a round that returns.
-/

namespace LessonLang

open Machine

variable {σ : Type} {h : Host σ} {limit : Nat} {sc : Scopes} {fs : Table Function} {n : Nat}

/-! ### Moves of loops -/

namespace Machine

variable {s : σ} (l : Loop) (k : List Frame)

lemma move_round_cancelled (hc : h.cancelled (h.elapse s) = true) :
    move h limit ⟨.round l, k, sc, fs, n⟩ s
      = some (⟨.failed .canceled, k, sc, fs, n⟩, h.elapse s) := by
  have hat : hostAt h ⟨.round l, k, sc, fs, n⟩ s = h.elapse s := rfl
  rw [move, hat, hc]
  rfl

lemma move_round (hc : h.cancelled (h.elapse s) = false) :
    move h limit ⟨.round l, k, sc, fs, n⟩ s
      = some (⟨.eval l.condition, .test l :: k, sc, fs, n⟩, h.elapse s) := by
  have hat : hostAt h ⟨.round l, k, sc, fs, n⟩ s = h.elapse s := rfl
  rw [move, hat, hc]
  rfl

/-- A condition that holds starts the body. -/
lemma move_test {v : Value} (hv : v.truthy = true) :
    move h limit ⟨.value v, .test l :: k, sc, fs, n⟩ s
      = some (⟨.block l.body, .body l :: k, sc, fs, n⟩, s) := by
  have hat : hostAt h ⟨.value v, .test l :: k, sc, fs, n⟩ s = s := rfl
  rw [move, hat]
  simp only [step, stepValue, if_pos hv]
  rfl

/-- A condition that does not hold ends the loop. -/
lemma move_test_of_not_truthy {v : Value} (hv : ¬v.truthy = true) :
    move h limit ⟨.value v, .test l :: k, sc, fs, n⟩ s = some (⟨.done, k, sc, fs, n⟩, s) := by
  have hat : hostAt h ⟨.value v, .test l :: k, sc, fs, n⟩ s = s := rfl
  rw [move, hat]
  simp only [step, stepValue, if_neg hv]
  rfl

end Machine

/-- What follows is skipped on the way out to a function or out of the run. -/
def Control.abrupt : Control → Bool
  | .returned _ | .failed _ => true
  | _ => false

/-- The frame belongs to a loop or a block. -/
def Frame.looping : Frame → Bool
  | .again _ | .test _ | .body _ | .sequence _ => true
  | _ => false

/-- **The way out** of loops and blocks is quiet. -/
lemma Machine.quietly_abrupt {c : Control} (hc : c.abrupt = true) {k : List Frame}
    (hk : ∀ f ∈ k, f.looping = true) (base : List Frame) :
    Quietly h limit ⟨c, k ++ base, sc, fs, n⟩ ⟨c, base, sc, fs, n⟩ := by
  induction k with
  | nil => exact .refl _
  | cons f k ih =>
      obtain ⟨hf, hk⟩ := List.forall_mem_cons.mp hk
      have hm : ∀ s, move h limit ⟨c, f :: (k ++ base), sc, fs, n⟩ s
          = some (⟨c, k ++ base, sc, fs, n⟩, s) := by
        intro s
        cases c with
        | returned v => cases f <;> first | rfl | exact absurd hf (by simp [Frame.looping])
        | failed e => cases f <;> first | rfl | exact absurd hf (by simp [Frame.looping])
        | _ => exact absurd hc (by simp [Control.abrupt])
      exact .step hm (ih hk)

/-! ### The parts of a counting loop -/

namespace Counting

/-- The rounds of a counting loop. -/
abbrev rounds (c : Expr) (body : List Stmt) (b : Assignment) : Loop := ⟨c, body, some (some b)⟩

/-- The rounds of its expansion. -/
abbrev expanded (c : Expr) (body : List Stmt) (b : Assignment) : Loop :=
  ⟨c, body ++ [.assign b], none⟩

variable (span : Span) (c : Expr) (body : List Stmt) (b : Assignment) (base : List Frame)

/-- **The stages of a counting loop** above the frames `base`: what is left to do behind the part
that is under way, in the loop and in its expansion. The expansion stands at the end of a block, of
which an empty sequence is left once it has started. -/
inductive Stage : List Frame → List Frame → Prop where
  /-- behind the assignment that starts the loop -/
  | start : Stage (.again (rounds c body b) :: base)
      (.sequence [.loop span c (body ++ [.assign b])] :: base)
  /-- behind the condition -/
  | condition : Stage (.test (rounds c body b) :: base)
      (.test (expanded c body b) :: .sequence [] :: base)
  /-- behind a statement of the body -/
  | body (rest : List Stmt) : Stage (.sequence rest :: .body (rounds c body b) :: base)
      (.sequence (rest ++ [.assign b]) :: .body (expanded c body b) :: .sequence [] :: base)
  /-- behind the assignment that ends a round -/
  | increment : Stage (.again (rounds c body b) :: base)
      (.sequence [] :: .body (expanded c body b) :: .sequence [] :: base)

/-- **Machines at the same place** of a counting loop and of its expansion. -/
inductive Matched : Machine → Machine → Prop where
  /-- outside of the loop -/
  | same (m : Machine) : Matched m m
  /-- at the head of a round -/
  | round (sc : Scopes) (fs : Table Function) (n : Nat) :
      Matched ⟨.round (rounds c body b), base, sc, fs, n⟩
        ⟨.round (expanded c body b), .sequence [] :: base, sc, fs, n⟩
  /-- in the middle of a part -/
  | part {k k' : List Frame} (hk : Stage span c body b base k k') {m : Machine}
      (hopen : ¬m.Finished []) : Matched (m.atop k) (m.atop k')

variable {span c body b base}

lemma Stage.exists_looping {k k' : List Frame} (hk : Stage span c body b base k k') :
    ∃ l l', k = l ++ base ∧ k' = l' ++ base
      ∧ (∀ f ∈ l, f.looping = true) ∧ ∀ f ∈ l', f.looping = true := by
  cases hk with
  | start => exact ⟨[_], [_], rfl, rfl, by simp [Frame.looping], by simp [Frame.looping]⟩
  | condition => exact ⟨[_], [_, _], rfl, rfl, by simp [Frame.looping], by simp [Frame.looping]⟩
  | body => exact ⟨[_, _], [_, _, _], rfl, rfl, by simp [Frame.looping], by simp [Frame.looping]⟩
  | increment => exact ⟨[_], [_, _, _], rfl, rfl, by simp [Frame.looping], by simp [Frame.looping]⟩

/-- At the start of the body, or of what is left of it. Behind its last statement the loop carries
out the assignment, which the expansion has in the body. -/
lemma joins_block (rest : List Stmt) :
    Joins h limit (Matched span c body b base)
      ⟨.block rest, .body (rounds c body b) :: base, sc, fs, n⟩
      ⟨.block (rest ++ [.assign b]), .body (expanded c body b) :: .sequence [] :: base,
        sc, fs, n⟩ := by
  cases rest with
  | nil =>
      have hmatched := Matched.part (.increment : Stage span c body b base _ _)
        (m := ⟨.assign (some b), [], sc, fs, n⟩) (fun hend => Bool.false_ne_true hend.1)
      have hleft : Quietly h limit ⟨.block [], .body (rounds c body b) :: base, sc, fs, n⟩
          ⟨.assign (some b), .again (rounds c body b) :: base, sc, fs, n⟩ :=
        .step (fun _ => rfl) (.step (fun _ => rfl) (.refl _))
      have hright : Quietly h limit
          ⟨.block [.assign b], .body (expanded c body b) :: .sequence [] :: base, sc, fs, n⟩
          ⟨.assign (some b), .sequence [] :: .body (expanded c body b) :: .sequence [] :: base,
            sc, fs, n⟩ :=
        .step (fun _ => rfl) (.step (fun _ => rfl) (.refl _))
      exact ⟨_, _, hleft, hright, hmatched⟩
  | cons st rest =>
      have hmatched := Matched.part (.body rest : Stage span c body b base _ _)
        (m := ⟨.exec st, [], sc, fs, n⟩) (fun hend => Bool.false_ne_true hend.1)
      exact ⟨_, _, .step (fun _ => rfl) (.refl _), .step (fun _ => rfl) (.refl _), hmatched⟩

/-- A part that is done leads to the next one. -/
lemma joins_done {k k' : List Frame} (hk : Stage span c body b base k k') :
    Joins h limit (Matched span c body b base) ⟨.done, k, sc, fs, n⟩ ⟨.done, k', sc, fs, n⟩ := by
  cases hk with
  | start =>
      exact ⟨_, _, .step (fun _ => rfl) (.refl _),
        .step (fun _ => rfl) (.step (fun _ => rfl) (.step (fun _ => rfl) (.refl _))),
        .round sc fs n⟩
  | condition =>
      exact ⟨_, _, .step (fun _ => rfl) (.refl _),
        .step (fun _ => rfl) (.step (fun _ => rfl) (.step (fun _ => rfl) (.refl _))), .same _⟩
  | body rest =>
      exact .of_moves (fun _ => rfl) (fun _ => rfl) (joins_block rest)
  | increment =>
      exact ⟨_, _, .step (fun _ => rfl) (.refl _),
        .step (fun _ => rfl) (.step (fun _ => rfl) (.step (fun _ => rfl) (.refl _))),
        .round sc fs n⟩

/-- The value of the condition decides whether there is another round. -/
lemma joins_value {k k' : List Frame} (hk : Stage span c body b base k k') (v : Value) :
    Joins h limit (Matched span c body b base) ⟨.value v, k, sc, fs, n⟩
      ⟨.value v, k', sc, fs, n⟩ := by
  cases hk with
  | condition =>
      by_cases hv : v.truthy = true
      · exact .of_moves (fun _ => move_test _ _ hv) (fun _ => move_test _ _ hv) (joins_block body)
      · exact ⟨_, _, .step (fun _ => move_test_of_not_truthy _ _ hv) (.refl _),
          .step (fun _ => move_test_of_not_truthy _ _ hv)
            (.step (fun _ => rfl) (.step (fun _ => rfl) (.refl _))), .same _⟩
  | start =>
      exact ⟨_, _, .step (fun _ => rfl) (.refl _), .step (fun _ => rfl) (.refl _), .same _⟩
  | body rest =>
      exact ⟨_, _, .step (fun _ => rfl) (.step (fun _ => rfl) (.refl _)),
        .step (fun _ => rfl) (.step (fun _ => rfl) (.step (fun _ => rfl) (.refl _))), .same _⟩
  | increment =>
      exact ⟨_, _, .step (fun _ => rfl) (.refl _),
        .step (fun _ => rfl) (.step (fun _ => rfl) (.step (fun _ => rfl) (.refl _))), .same _⟩

lemma joins_abrupt {k k' : List Frame} (hk : Stage span c body b base k k') {u : Control}
    (hu : u.abrupt = true) :
    Joins h limit (Matched span c body b base) ⟨u, k, sc, fs, n⟩ ⟨u, k', sc, fs, n⟩ := by
  obtain ⟨l, l', rfl, rfl, hl, hl'⟩ := hk.exists_looping
  exact ⟨_, _, quietly_abrupt hu hl base, quietly_abrupt hu hl' base, .same _⟩

/-- **Whatever a part comes to**, the loop and its expansion join behind it. -/
lemma joins_part {k k' : List Frame} (hk : Stage span c body b base k k') (m : Machine) :
    Joins h limit (Matched span c body b base) (m.atop k) (m.atop k') := by
  by_cases hend : m.Finished []
  · obtain ⟨control, frames, sc, fs, n⟩ := m
    obtain ⟨hsettled, rfl : frames = []⟩ := hend
    cases control with
    | value v => exact joins_value hk v
    | done => exact joins_done hk
    | returned v => exact joins_abrupt hk rfl
    | failed e => exact joins_abrupt hk rfl
    | _ => exact absurd hsettled (by simp [Control.settled])
  · exact .of_rel (.part hk hend)

/-- **The loop and its expansion** move alike. -/
lemma mirrors (span : Span) (c : Expr) (body : List Stmt) (b : Assignment) (base : List Frame)
    (h : Host σ) (limit : Nat) : Mirrors h limit (Matched span c body b base) := by
  intro m m' hR
  cases hR with
  | same m => exact Or.inl rfl
  | round sc fs n =>
      refine Or.inr fun s => ?_
      cases hc : h.cancelled (h.elapse s) with
      | true =>
          have hquiet : Quietly h limit ⟨.failed .canceled, .sequence [] :: base, sc, fs, n⟩
              ⟨.failed .canceled, base, sc, fs, n⟩ := .step (fun _ => rfl) (.refl _)
          exact ⟨_, _, _, move_round_cancelled _ _ hc, move_round_cancelled _ _ hc,
            _, _, .refl _, hquiet, .same _⟩
      | false =>
          exact ⟨_, _, _, move_round _ _ hc, move_round _ _ hc,
            joins_part .condition ⟨.eval c, [], sc, fs, n⟩⟩
  | @part k k' hk m hopen =>
      refine Or.inr fun s => ?_
      cases hm : m.move h limit s with
      | none => exact absurd (move_eq_none_iff.mp hm) hopen
      | some r => exact ⟨_, _, r.2, move_atop k hm, move_atop k' hm, joins_part hk r.1⟩

/-- A round whose body returns ends the loop. -/
lemma path_round_of_returned {l : Loop} {s s₁ s₂ : σ} {n₁ n₂ k k₁ k₂ : Nat} {sc₁ sc₂ : Scopes}
    {fs₁ fs₂ : Table Function} {u v : Value} (hgo : h.cancelled (h.elapse s) = false)
    (hcond : Path h limit n₁ ⟨.eval l.condition, [], sc, fs, k⟩ (h.elapse s)
      ⟨.value u, [], sc₁, fs₁, k₁⟩ s₁)
    (hu : u.truthy = true)
    (hbody : Path h limit n₂ ⟨.block l.body, [], sc₁, fs₁, k₁⟩ s₁
      ⟨.returned v, [], sc₂, fs₂, k₂⟩ s₂) (base : List Frame) :
    ∃ n', Path h limit n' ⟨.round l, base, sc, fs, k⟩ s ⟨.returned v, base, sc₂, fs₂, k₂⟩ s₂ := by
  have htested := hcond.atop (.test l :: base)
  have hreturned := hbody.atop (.body l :: base)
  have hout : Path h limit 1 ⟨.returned v, .body l :: base, sc₂, fs₂, k₂⟩ s₂
      ⟨.returned v, base, sc₂, fs₂, k₂⟩ s₂ := .step rfl (.refl _ _)
  exact ⟨_, .step (move_round l base hgo)
    (htested.trans (.step (move_test l base hu) (hreturned.trans hout)))⟩

end Counting

/-- **A counting loop means its expansion.** Wherever it stands, in whatever state the interpreter
is, and under every host, carrying it out cannot be told apart from carrying out its first
assignment and then a plain loop with the same condition, whose body is followed by the other
assignment. In particular, when the condition of a round holds and its body returns, both loops
return just that, in the state that the body has left: the assignment behind the body is skipped. -/
theorem count_expansion (span span' : Span) (a : Assignment) (c : Expr) (b : Assignment)
    (body : List Stmt) (base : List Frame) (sc : Scopes) (fs : Table Function) (k : Nat) :
    Machine.Interchangeable ⟨.exec (.count span (some a) c (some b) body), base, sc, fs, k⟩
        ⟨.block [.assign a, .loop span' c (body ++ [.assign b])], base, sc, fs, k⟩
      ∧ ∀ {σ : Type} (h : Host σ) (limit n₁ n₂ : Nat) (s s₁ s₂ : σ) (sc₁ sc₂ : Scopes)
          (fs₁ fs₂ : Table Function) (k₁ k₂ : Nat) (u v : Value),
        h.cancelled (h.elapse s) = false →
        Path h limit n₁ ⟨.eval c, [], sc, fs, k⟩ (h.elapse s) ⟨.value u, [], sc₁, fs₁, k₁⟩ s₁ →
        u.truthy = true →
        Path h limit n₂ ⟨.block body, [], sc₁, fs₁, k₁⟩ s₁ ⟨.returned v, [], sc₂, fs₂, k₂⟩ s₂ →
        (∃ n', Path h limit n' ⟨.round ⟨c, body, some (some b)⟩, base, sc, fs, k⟩ s
          ⟨.returned v, base, sc₂, fs₂, k₂⟩ s₂)
        ∧ ∃ n', Path h limit n'
            ⟨.round ⟨c, body ++ [.assign b], none⟩, .sequence [] :: base, sc, fs, k⟩ s
            ⟨.returned v, base, sc₂, fs₂, k₂⟩ s₂ := by
  refine ⟨.of_mirrors (Counting.mirrors span' c body b base) ?_, ?_⟩
  · intro σ h limit
    obtain ⟨r, r', hq, hq', hR⟩ : Joins h limit (Counting.Matched span' c body b base)
        (atop (.again (Counting.rounds c body b) :: base) ⟨.assign (some a), [], sc, fs, k⟩) _ :=
      Counting.joins_part .start _
    exact ⟨r, r', .step (fun _ => rfl) hq, .step (fun _ => rfl) (.step (fun _ => rfl) hq'), hR⟩
  · intro σ h limit n₁ n₂ s s₁ s₂ sc₁ sc₂ fs₁ fs₂ k₁ k₂ u v hgo hcond hu hbody
    have hreturns := Counting.path_round_of_returned (l := Counting.rounds c body b) hgo hcond hu
      hbody
    refine ⟨hreturns base, ?_⟩
    -- above no frame the end of the path is the end of the run, which is the same for both loops
    obtain ⟨n', hp⟩ := hreturns []
    obtain ⟨n'', m₂', hp', hend⟩ := hp.of_joins (Counting.mirrors span' c body b [] h limit)
      (.of_rel (.round sc fs k))
    obtain rfl := hend ⟨rfl, rfl⟩
    exact ⟨n'', hp'.atop base⟩

/-- The body of a loop that prints its variable and returns it in the first round. -/
def returningBody : List Stmt :=
  [.print none (.identifier none [0x69]), .giveBack none (.identifier none [0x69])]

/-- The assignment behind that body, which empties the variable. -/
def emptying : Assignment := ⟨none, [0x69], .string none [], false⟩

/-- The loop returns the value that the variable started with, and so does its expansion: the
assignment that would have emptied it is skipped in both. -/
theorem count_expansion_returning :
    (∃ fuel, Machine.run (Queue.host {}) 1 fuel
        ⟨.block [.assign ⟨none, [0x69], .string none [0x78], true⟩,
          .loop none (.identifier none [0x69]) (returningBody ++ [.assign emptying])],
          [], .empty, [], 0⟩ (Queue.start {} [])
      = some (⟨.returned (.string [0x78]), [], ⟨[([0x69], .string [0x78])], []⟩, [], 0⟩,
          ⟨[], [.output [0x78]], false⟩))
    ∧ ∃ n, Path (Queue.host {}) 1 n
        ⟨.round ⟨.identifier none [0x69], returningBody ++ [.assign emptying], none⟩,
          [.sequence []], ⟨[([0x69], .string [0x78])], []⟩, [], 0⟩ (Queue.start {} [])
        ⟨.returned (.string [0x78]), [], ⟨[([0x69], .string [0x78])], []⟩, [], 0⟩
        ⟨[], [.output [0x78]], false⟩ := by
  constructor
  · have hsame := (count_expansion none none ⟨none, [0x69], .string none [0x78], true⟩
      (.identifier none [0x69]) emptying returningBody [] .empty [] 0).1
    exact (hsame.ends (Queue.host {}) 1 (Queue.start {} []) _).mp ⟨40, rfl⟩
  · have hcond : Machine.run (Queue.host {}) 1 2
        ⟨.eval (.identifier none [0x69]), [], ⟨[([0x69], .string [0x78])], []⟩, [], 0⟩
        (Queue.start {} [])
      = some (⟨.value (.string [0x78]), [], ⟨[([0x69], .string [0x78])], []⟩, [], 0⟩, _) := rfl
    have hbody : Machine.run (Queue.host {}) 1 40
        ⟨.block returningBody, [], ⟨[([0x69], .string [0x78])], []⟩, [], 0⟩ (Queue.start {} [])
      = some (⟨.returned (.string [0x78]), [], ⟨[([0x69], .string [0x78])], []⟩, [], 0⟩,
          ⟨[], [.output [0x78]], false⟩) := rfl
    obtain ⟨n₁, -, hp₁, -⟩ := run_eq_some_iff.mp hcond
    obtain ⟨n₂, -, hp₂, -⟩ := run_eq_some_iff.mp hbody
    have hreturn := (count_expansion none none ⟨none, [0x69], .string none [0x78], true⟩
      (.identifier none [0x69]) emptying returningBody [] _ [] 0).2
      (Queue.host {}) 1 n₁ n₂ _ _ _ _ _ _ _ _ _ _ _ rfl hp₁ rfl hp₂
    exact hreturn.2

end LessonLang
