import LessonLang.Proofs.Grammar.Rule
import LessonLang.Proofs.Tree.Bare

/-!
Neither the places of tokens nor the budget matter to the parser.

* `Token.Alike`: two tokens agree in all but their places.
* `Rule.Twins l x y r`: on alike lists of at most `l` tokens the rules `x` and `y` succeed together,
  with results in the relation `r` and alike tokens left, or fail together in front of alike tokens
  and for the same reason. The relation `r` also knows how many tokens are left, for that is what
  budgets are measured by.
* `Expr.twin`, `Stmt.twin`, `Program.twin`: a rule with one budget and the same rule with another
  one are twins, if both budgets suffice. Their trees are equal up to the places of their nodes.
* `Program.parse_alike`, `Program.ofSource_alike`: so alike lists of tokens, and source texts with
  such tokens, are parsed alike.
-/

namespace LessonLang

/-- **Tokens that agree** in kind, spelling and value, wherever they stand. -/
structure Token.Alike (t u : Token) : Prop where
  kind : t.kind = u.kind
  text : t.text = u.text
  number : t.number = u.number

/-- A token is like itself. -/
lemma Token.Alike.refl (t : Token) : t.Alike t := ⟨rfl, rfl, rfl⟩

namespace Rule

variable {α β : Type}

/-- Lists of tokens that agree one by one. -/
abbrev AllAlike (ts us : List Token) : Prop := List.Forall₂ Token.Alike ts us

lemma allAlike_refl (ts : List Token) : AllAlike ts ts :=
  List.forall₂_same.mpr fun t _ => .refl t

/-- Outcomes of two rules that agree. -/
def Agree (r : Nat → α → α → Prop) :
    Except Mismatch (α × List Token) → Except Mismatch (α × List Token) → Prop
  | .ok (a, ts), .ok (b, us) => AllAlike ts us ∧ r ts.length a b
  | .error f, .error g => f.expected = g.expected ∧ f.detail = g.detail ∧ AllAlike f.rest g.rest
  | _, _ => False

/-- **The rules `x` and `y` are twins** on lists of at most `l` tokens. -/
def Twins (l : Nat) (x y : Rule α) (r : Nat → α → α → Prop) : Prop :=
  ∀ ts us, AllAlike ts us → ts.length ≤ l → Agree r (x ts) (y us)

/-- **Sequences of rules are twins** if their parts are. -/
lemma Twins.bind {l : Nat} {x y : Rule α} {f g : α → Rule β} {r : Nat → α → α → Prop}
    {s : Nat → β → β → Prop} (h : Twins l x y r)
    (hf : ∀ l' a b, r l' a b → Twins l' (f a) (g b) s) : Twins l (x >>= f) (y >>= g) s := by
  intro ts us hts hl
  have hxy := h ts us hts hl
  show Agree s (x ts >>= fun p => f p.1 p.2) (y us >>= fun p => g p.1 p.2)
  match hx : x ts, hy : y us with
  | .ok (a, ts'), .ok (b, us') =>
      rw [hx, hy] at hxy
      exact hf _ a b hxy.2 ts' us' hxy.1 le_rfl
  | .error e, .error e' =>
      rw [hx, hy] at hxy
      exact hxy
  | .ok _, .error _ => rw [hx, hy] at hxy; exact hxy.elim
  | .error _, .ok _ => rw [hx, hy] at hxy; exact hxy.elim

/-- Twins for one relation are twins for a weaker one. -/
lemma Twins.imp {l : Nat} {x y : Rule α} {r s : Nat → α → α → Prop} (h : Twins l x y r)
    (hrs : ∀ l' a b, r l' a b → s l' a b) : Twins l x y s := by
  intro ts us hts hl
  have hxy := h ts us hts hl
  match hx : x ts, hy : y us with
  | .ok (a, ts'), .ok (b, us') =>
      rw [hx, hy] at hxy
      exact ⟨hxy.1, hrs _ a b hxy.2⟩
  | .error e, .error e' =>
      rw [hx, hy] at hxy
      exact hxy
  | .ok _, .error _ => rw [hx, hy] at hxy; exact hxy.elim
  | .error _, .ok _ => rw [hx, hy] at hxy; exact hxy.elim

/-! ### Single tokens -/

/-- Rules that read nothing are twins if their values are related. -/
lemma twins_pure {l : Nat} {a b : α} {r : Nat → α → α → Prop} (h : ∀ l' ≤ l, r l' a b) :
    Twins l (pure a) (pure b) r :=
  fun ts _ hts hl => ⟨hts, h ts.length hl⟩

/-- Rules that fail alike are twins. -/
lemma twins_fail {l : Nat} {e : Expected} {d : Detail} {r : Nat → α → α → Prop} :
    Twins l (fail e d) (fail e d) r :=
  fun _ _ hts _ => ⟨rfl, rfl, hts⟩

/-- A token that is asked for is found in both lists or in none. -/
lemma twins_expect (l : Nat) (k : Kind) :
    Twins l (expect k) (expect k) fun l' t u => l' < l ∧ t.Alike u := by
  intro ts us hts hl
  cases hts with
  | nil => exact ⟨rfl, rfl, .nil⟩
  | @cons t u ts us htu hts =>
      rw [expect, expect, ← htu.kind]
      split_ifs
      · exact ⟨hts, hl, htu⟩
      · exact ⟨rfl, rfl, .cons htu hts⟩

/-- So is a token that may be there. -/
lemma twins_next? (l : Nat) (ks : List Kind) :
    Twins l (next? ks) (next? ks) fun l' o o' =>
      (∃ t u, o = some t ∧ o' = some u ∧ l' < l ∧ t.Alike u) ∨ (o = none ∧ o' = none ∧ l' ≤ l) := by
  intro ts us hts hl
  cases hts with
  | nil => exact ⟨.nil, Or.inr ⟨rfl, rfl, hl⟩⟩
  | @cons t u ts us htu hts =>
      rw [next?, next?, ← htu.kind]
      split_ifs
      · exact ⟨hts, Or.inl ⟨t, u, rfl, rfl, hl, htu⟩⟩
      · exact ⟨.cons htu hts, Or.inr ⟨rfl, rfl, hl⟩⟩

lemma twins_at? (l : Nat) (k : Kind) :
    Twins l (at? k) (at? k) fun l' b b' => l' ≤ l ∧ b = b' := by
  intro ts us hts hl
  refine ⟨hts, hl, ?_⟩
  cases hts with
  | nil => rfl
  | cons htu _ => simp [htu.kind]

/-- Both lists are at their end, or neither is. -/
lemma twins_atEnd (l : Nat) : Twins l atEnd atEnd fun l' b b' => l' ≤ l ∧ b = b' := by
  intro ts us hts hl
  refine ⟨hts, hl, ?_⟩
  cases hts with
  | nil => rfl
  | cons htu _ => simp [htu.kind]

end Rule

open Rule

/-! ### Expressions -/

namespace Expr

/-- Expressions that are equal up to their layout, behind which fewer than `l` tokens are left. -/
def Alike (l l' : Nat) (e e' : Expr) : Prop := l' < l ∧ e.bare = e'.bare

/-- Lists of expressions that are equal up to their layout, behind which fewer than `l` tokens are
left. -/
def AllAlike (l l' : Nat) (es es' : List Expr) : Prop := l' < l ∧ es.map bare = es'.map bare

lemma length_levels : levels.length = 4 := rfl

/-- The rules for expressions with two budgets. A rule that reads a token first needs sixteen for
each token; the others need as many more as there are rules in front of the one that reads. -/
structure Twin (n n' : Nat) : Prop where
  levels {l : Nat} {ops : List (List Kind)} (hops : ops.length ≤ 4)
    (hn : 16 * l + ops.length + 3 ≤ min n n') :
    Twins l (parseLevels n ops) (parseLevels n' ops) (Alike l)
  chain {l : Nat} {ops : List Kind} {tighter : List (List Kind)} {e e' : Expr}
    (hops : tighter.length < 4) (he : e.bare = e'.bare) (hn : 16 * l + 1 ≤ min n n') :
    Twins l (parseChain n ops tighter e) (parseChain n' ops tighter e') (Alike (l + 1))
  operand {l : Nat} (hn : 16 * l + 2 ≤ min n n') :
    Twins l (parseUnary n) (parseUnary n') (Alike l)
  primary {l : Nat} (hn : 16 * l + 1 ≤ min n n') :
    Twins l (parsePrimary n) (parsePrimary n') (Alike l)
  arguments {l : Nat} (hn : 16 * l + 1 ≤ min n n') :
    Twins l (parseArguments n) (parseArguments n') (AllAlike l)
  items {l : Nat} (hn : 16 * l + 8 ≤ min n n') :
    Twins l (parseCommaList n) (parseCommaList n') (AllAlike l)

variable {n n' : Nat}

/-- Binary operators are read alike, if expressions are with less budget. -/
lemma Twin.levels_succ (h : Twin n n') {l : Nat} {ops : List (List Kind)} (hops : ops.length ≤ 4)
    (hn : 16 * l + ops.length + 3 ≤ min (n + 1) (n' + 1)) :
    Twins l (parseLevels (n + 1) ops) (parseLevels (n' + 1) ops) (Alike l) := by
  cases ops with
  | nil => exact h.operand (by rw [List.length_nil] at hn; omega)
  | cons ops tighter =>
      rw [List.length_cons] at hn hops
      refine (h.levels (by omega) (by omega)).bind fun l₁ e e' he => ?_
      refine (h.chain (by omega) he.2 (by have := he.1; omega)).imp fun l₂ e e' he' => ⟨?_, he'.2⟩
      exact lt_of_lt_of_le he'.1 he.1

/-- So are the operators behind a left operand. -/
lemma Twin.chain_succ (h : Twin n n') {l : Nat} {ops : List Kind} {tighter : List (List Kind)}
    {e e' : Expr} (hops : tighter.length < 4) (he : e.bare = e'.bare)
    (hn : 16 * l + 1 ≤ min (n + 1) (n' + 1)) :
    Twins l (parseChain (n + 1) ops tighter e) (parseChain (n' + 1) ops tighter e')
      (Alike (l + 1)) := by
  refine (twins_next? l ops).bind fun l₁ o o' ho => ?_
  obtain ⟨t, u, rfl, rfl, hl₁, htu⟩ | ⟨rfl, rfl, hl₁⟩ := ho
  · refine (h.levels (by omega) (by omega)).bind fun l₂ r r' hr => ?_
    have hbinary : (binary t.span t.text e r).bare = (binary u.span u.text e' r').bare := by
      rw [bare, bare, htu.text, he, hr.2]
    refine (h.chain hops hbinary (by have := hr.1; omega)).imp fun l₃ e e' he' => ⟨?_, he'.2⟩
    have := he'.1
    have := hr.1
    omega
  · exact twins_pure fun l₂ hl₂ => ⟨by omega, he⟩

/-- Negations are read alike. -/
lemma Twin.operand_succ (h : Twin n n') {l : Nat} (hn : 16 * l + 2 ≤ min (n + 1) (n' + 1)) :
    Twins l (parseUnary (n + 1)) (parseUnary (n' + 1)) (Alike l) := by
  refine (twins_next? l [.minus]).bind fun l₁ o o' ho => ?_
  obtain ⟨t, u, rfl, rfl, hl₁, htu⟩ | ⟨rfl, rfl, hl₁⟩ := ho
  · refine (h.operand (by omega)).bind fun l₂ e e' he => twins_pure fun l₃ hl₃ => ⟨?_, ?_⟩
    · have := he.1
      omega
    · simp only [bare, he.2]
  · exact (h.primary (by omega)).imp fun l₂ e e' he => ⟨lt_of_lt_of_le he.1 hl₁, he.2⟩

/-- Literals, names, calls and expressions in parentheses are read alike. -/
lemma Twin.primary_succ (h : Twin n n') {l : Nat} (hn : 16 * l + 1 ≤ min (n + 1) (n' + 1)) :
    Twins l (parsePrimary (n + 1)) (parsePrimary (n' + 1)) (Alike l) := by
  refine (twins_next? l _).bind fun l₁ o o' ho => ?_
  obtain ⟨t, u, rfl, rfl, hl₁, htu⟩ | ⟨rfl, rfl, hl₁⟩ := ho
  · dsimp only
    rw [← htu.kind]
    split
    · exact twins_pure fun l₂ hl₂ => ⟨by omega, by simp only [bare, htu.number]⟩
    · exact twins_pure fun l₂ hl₂ => ⟨by omega, by simp only [bare, htu.text]⟩
    · refine (twins_at? l₁ .lparen).bind fun l₂ b b' hb => ?_
      obtain ⟨hl₂, rfl⟩ := hb
      split_ifs
      · refine (h.arguments (by omega)).bind fun l₃ es es' hes => twins_pure fun l₄ hl₄ => ?_
        have := hes.1
        exact ⟨by omega, by simp only [bare, bareAll_eq, htu.text, hes.2]⟩
      · exact twins_pure fun l₃ hl₃ => ⟨by omega, by simp only [bare, htu.text]⟩
    · refine (h.levels length_levels.le (by rw [length_levels]; omega)).bind fun l₂ e e' he => ?_
      refine (twins_expect l₂ .rparen).bind fun l₃ _ _ hc => twins_pure fun l₄ hl₄ => ⟨?_, he.2⟩
      have := he.1
      have := hc.1
      omega
  · exact twins_fail

lemma Twin.arguments_succ (h : Twin n n') {l : Nat} (hn : 16 * l + 1 ≤ min (n + 1) (n' + 1)) :
    Twins l (parseArguments (n + 1)) (parseArguments (n' + 1)) (AllAlike l) := by
  refine (twins_expect l .lparen).bind fun l₁ _ _ ho => ?_
  have hl₁ := ho.1
  refine (twins_next? l₁ [.rparen]).bind fun l₂ o o' ho => ?_
  obtain ⟨t, u, rfl, rfl, hl₂, -⟩ | ⟨rfl, rfl, hl₂⟩ := ho
  · exact twins_pure fun l₃ hl₃ => ⟨by omega, rfl⟩
  · refine (h.items (by omega)).bind fun l₃ es es' hes => ?_
    refine (twins_expect l₃ .rparen).bind fun l₄ _ _ hc => twins_pure fun l₅ hl₅ => ⟨?_, hes.2⟩
    have := hes.1
    have := hc.1
    omega

lemma Twin.items_succ (h : Twin n n') {l : Nat} (hn : 16 * l + 8 ≤ min (n + 1) (n' + 1)) :
    Twins l (parseCommaList (n + 1)) (parseCommaList (n' + 1)) (AllAlike l) := by
  refine (h.levels length_levels.le (by rw [length_levels]; omega)).bind fun l₁ e e' he => ?_
  have hl₁ := he.1
  refine (twins_next? l₁ [.comma]).bind fun l₂ o o' ho => ?_
  obtain ⟨t, u, rfl, rfl, hl₂, -⟩ | ⟨rfl, rfl, hl₂⟩ := ho
  · refine (h.items (by omega)).bind fun l₃ es es' hes => twins_pure fun l₄ hl₄ => ⟨?_, ?_⟩
    · have := hes.1
      omega
    · rw [List.map_cons, List.map_cons, he.2, hes.2]
  · exact twins_pure fun l₃ hl₃ => ⟨by omega, by simp only [List.map_cons, List.map_nil, he.2]⟩

/-- **Rules for expressions with sufficient budgets** are twins. -/
lemma twin : ∀ n n', Twin n n'
  | 0, _ => by constructor <;> (intros; omega)
  | _ + 1, 0 => by constructor <;> (intros; omega)
  | n + 1, n' + 1 =>
      have h := twin n n'
      ⟨h.levels_succ, h.chain_succ, h.operand_succ, h.primary_succ, h.arguments_succ, h.items_succ⟩

/-- **Expressions are read alike**, whatever the budgets, if they are large enough. -/
lemma twins_parse {n n' l : Nat} (hn : 16 * l + 7 ≤ min n n') :
    Twins l (parse n) (parse n') (Alike l) :=
  (twin n n').levels length_levels.le (by rw [length_levels]; omega)

lemma twins_parseCondition {n n' l : Nat} (hn : 16 * l ≤ min n n') :
    Twins l (parseCondition n) (parseCondition n') (Alike l) := by
  refine (twins_expect l .lparen).bind fun l₁ _ _ ho => ?_
  have hl₁ := ho.1
  refine (twins_parse (by omega)).bind fun l₂ e e' he => ?_
  have hl₂ := he.1
  refine (twins_expect l₂ .rparen).bind fun l₃ _ _ hc => twins_pure fun l₄ hl₄ => ⟨?_, he.2⟩
  have := hc.1
  omega

end Expr

/-! ### Parts of statements -/

/-- Assignments that are equal up to their layout, behind which fewer than `l` tokens are left. -/
def Assignment.Alike (l l' : Nat) (a a' : Assignment) : Prop := l' < l ∧ a.bare id = a'.bare id

lemma Assignment.twins_parse {n n' l : Nat} (head head' : Token) (declared : Bool)
    (hn : 16 * l ≤ min n n') :
    Twins l (Assignment.parse n head declared) (Assignment.parse n' head' declared)
      (Assignment.Alike l) := by
  refine (twins_expect l .identifier).bind fun l₁ name name' hname => ?_
  have hl₁ := hname.1
  refine (twins_expect l₁ .assign).bind fun l₂ _ _ heq => ?_
  have hl₂ := heq.1
  refine (Expr.twins_parse (by omega)).bind fun l₃ e e' he => ?_
  have hl₃ := he.1
  refine (twins_expect l₃ .semicolon).bind fun l₄ _ _ hsemi => twins_pure fun l₅ hl₅ => ⟨?_, ?_⟩
  · have := hsemi.1
    omega
  · rw [Assignment.bare, Assignment.bare, hname.2.text, he.2]

lemma twins_parseNames : ∀ {n n' l : Nat}, 16 * l + 1 ≤ min n n' →
    Twins l (parseNames n) (parseNames n') fun l' ns ns' => l' < l ∧ ns = ns'
  | 0, _, _, hn => by omega
  | _ + 1, 0, _, hn => by omega
  | n + 1, n' + 1, l, hn => by
      refine (twins_expect l .identifier).bind fun l₁ t u htu => ?_
      have hl₁ := htu.1
      refine (twins_next? l₁ [.comma]).bind fun l₂ o o' ho => ?_
      obtain ⟨_, _, rfl, rfl, hl₂, -⟩ | ⟨rfl, rfl, hl₂⟩ := ho
      · refine (twins_parseNames (by omega)).bind fun l₃ ns ns' hns => twins_pure fun l₄ hl₄ => ?_
        have := hns.1
        exact ⟨by omega, by rw [htu.2.text, hns.2]⟩
      · exact twins_pure fun l₃ hl₃ => ⟨by omega, by rw [htu.2.text]⟩

lemma twins_parseParams {n n' l : Nat} (hn : 16 * l ≤ min n n') :
    Twins l (parseParams n) (parseParams n') fun l' ns ns' => l' < l ∧ ns = ns' := by
  refine (twins_expect l .lparen).bind fun l₁ _ _ ho => ?_
  have hl₁ := ho.1
  refine (twins_next? l₁ [.rparen]).bind fun l₂ o o' ho => ?_
  obtain ⟨_, _, rfl, rfl, hl₂, -⟩ | ⟨rfl, rfl, hl₂⟩ := ho
  · exact twins_pure fun l₃ hl₃ => ⟨by omega, rfl⟩
  · refine (twins_parseNames (by omega)).bind fun l₃ ns ns' hns => ?_
    have hl₃ := hns.1
    refine (twins_expect l₃ .rparen).bind fun l₄ _ _ hc => twins_pure fun l₅ hl₅ => ⟨?_, hns.2⟩
    have := hc.1
    omega

/-- Heads of counting loops that are equal up to their layout, behind which fewer than `l` tokens
are left. -/
def AlikeCount (l l' : Nat) (c c' : Assignment × Expr × Assignment) : Prop :=
  l' < l ∧ c.1.bare id = c'.1.bare id ∧ c.2.1.bare = c'.2.1.bare ∧ c.2.2.bare id = c'.2.2.bare id

lemma twins_parseCount {n n' l : Nat} (hn : 16 * l ≤ min n n') :
    Twins l (parseCount n) (parseCount n') (AlikeCount l) := by
  refine (twins_expect l .lparen).bind fun l₁ _ _ ho => ?_
  have hl₁ := ho.1
  refine (twins_expect l₁ .declare).bind fun l₂ head head' hhead => ?_
  have hl₂ := hhead.1
  refine (Assignment.twins_parse head head' true (by omega)).bind fun l₃ init init' hinit => ?_
  have hl₃ := hinit.1
  refine (Expr.twins_parse (by omega)).bind fun l₄ c c' hc => ?_
  have hl₄ := hc.1
  refine (twins_expect l₄ .semicolon).bind fun l₅ _ _ hsemi => ?_
  have hl₅ := hsemi.1
  refine (twins_expect l₅ .identifier).bind fun l₆ name name' hname => ?_
  have hl₆ := hname.1
  refine (twins_expect l₆ .assign).bind fun l₇ _ _ heq => ?_
  have hl₇ := heq.1
  refine (Expr.twins_parse (by omega)).bind fun l₈ e e' he => ?_
  have hl₈ := he.1
  refine (twins_next? l₈ [.semicolon]).bind fun l₉ o o' ho => ?_
  have hl₉ : l₉ ≤ l₈ := by
    obtain ⟨_, _, -, -, hl, -⟩ | ⟨-, -, hl⟩ := ho <;> omega
  refine (twins_expect l₉ .rparen).bind fun l₁₀ _ _ hclose => twins_pure fun l₁₁ hl₁₁ => ?_
  refine ⟨by have := hclose.1; omega, hinit.2, hc.2, ?_⟩
  show Assignment.bare id _ = Assignment.bare id _
  rw [Assignment.bare, Assignment.bare, hname.2.text, he.2]

/-! ### Statements -/

namespace Stmt

/-- Statements that are equal up to their layout, behind which fewer than `l` tokens are left. -/
def Alike (l l' : Nat) (s s' : Stmt) : Prop := l' < l ∧ s.bare id = s'.bare id

/-- Lists of statements that are equal up to their layout, behind which fewer than `l` tokens are
left. -/
def AllAlike (l l' : Nat) (body body' : List Stmt) : Prop :=
  l' < l ∧ body.map (bare id) = body'.map (bare id)

/-- What begins with a name is read alike, with names that are alike. -/
lemma twins_parseNamed {n n' l : Nat} {t u : Token} (htu : t.Alike u)
    (hn : 16 * l + 1 ≤ min n n') :
    Twins l (parseNamed n t) (parseNamed n' u) (Alike l) := by
  refine (twins_at? l .assign).bind fun l₁ b b' hb => ?_
  obtain ⟨hl₁, rfl⟩ := hb
  split_ifs
  · refine (twins_expect l₁ .assign).bind fun l₂ _ _ heq => ?_
    have hl₂ := heq.1
    refine (Expr.twins_parse (by omega)).bind fun l₃ e e' he => ?_
    have hl₃ := he.1
    refine (twins_expect l₃ .semicolon).bind fun l₄ _ _ hsemi => twins_pure fun l₅ hl₅ => ⟨?_, ?_⟩
    · have := hsemi.1
      omega
    · simp only [bare, Assignment.bare, htu.text, he.2]
  · refine (twins_at? l₁ .lparen).bind fun l₂ b b' hb => ?_
    obtain ⟨hl₂, rfl⟩ := hb
    split_ifs
    · refine ((Expr.twin n n').arguments (by omega)).bind fun l₃ es es' hes => ?_
      have hl₃ := hes.1
      refine (twins_expect l₃ .semicolon).bind fun l₄ _ _ hsemi => twins_pure fun l₅ hl₅ => ⟨?_, ?_⟩
      · have := hsemi.1
        omega
      · simp only [bare, htu.text, hes.2]
    · rw [htu.text]
      exact twins_fail

/-- The rules for statements with two budgets. -/
structure Twin (n n' : Nat) : Prop where
  statement {l : Nat} (hn : 16 * l + 1 ≤ min n n') : Twins l (parse n) (parse n') (Alike l)
  block {l : Nat} (hn : 16 * l + 1 ≤ min n n') :
    Twins l (parseBlock n) (parseBlock n') (AllAlike l)
  many {l : Nat} (close : Kind) (hn : 16 * l + 2 ≤ min n n') :
    Twins l (parseUntil n close) (parseUntil n' close) (AllAlike l)
  branches {l : Nat} (hn : 16 * l + 1 ≤ min n n') :
    Twins l (parseBranches n) (parseBranches n')
      fun l' bs bs' => l' ≤ l ∧ bs.map (Branch.bare id) = bs'.map (Branch.bare id)

variable {n n' : Nat}

/-- Statements are read alike, if their parts are with less budget. -/
lemma Twin.statement_succ (h : Twin n n') {l : Nat} (hn : 16 * l + 1 ≤ min (n + 1) (n' + 1)) :
    Twins l (parse (n + 1)) (parse (n' + 1)) (Alike l) := by
  refine (twins_next? l heads).bind fun l₁ o o' ho => ?_
  obtain ⟨t, u, rfl, rfl, hl₁, htu⟩ | ⟨rfl, rfl, hl₁⟩ := ho
  · dsimp only
    rw [← htu.kind]
    split
    · refine (Assignment.twins_parse t u true (by omega)).bind fun l₂ a a' ha => ?_
      have hl₂ := ha.1
      exact twins_pure fun l₃ hl₃ => ⟨by omega, by simp only [bare, ha.2]⟩
    · refine (Expr.twins_parse (by omega)).bind fun l₂ e e' he => ?_
      have hl₂ := he.1
      refine (twins_expect l₂ .semicolon).bind fun l₃ _ _ hsemi => twins_pure fun l₄ hl₄ => ?_
      have hl₃ := hsemi.1
      exact ⟨by omega, by simp only [bare, he.2]⟩
    · refine (twins_expect l₁ .identifier).bind fun l₂ name name' hname => ?_
      have hl₂ := hname.1
      refine (twins_expect l₂ .semicolon).bind fun l₃ _ _ hsemi => twins_pure fun l₄ hl₄ => ?_
      have hl₃ := hsemi.1
      exact ⟨by omega, by simp only [bare, hname.2.text]⟩
    · refine (Expr.twins_parseCondition (by omega)).bind fun l₂ c c' hc => ?_
      have hl₂ := hc.1
      refine (h.block (by omega)).bind fun l₃ body body' hbody => ?_
      have hl₃ := hbody.1
      refine (h.branches (by omega)).bind fun l₄ more more' hmore => twins_pure fun l₅ hl₅ => ?_
      have hl₄ := hmore.1
      refine ⟨by omega, ?_⟩
      simp only [bare, Branch.bareAll_eq, List.map_cons, Branch.bare, bareAll_eq, hc.2, hbody.2,
        hmore.2]
    · refine (Expr.twins_parseCondition (by omega)).bind fun l₂ c c' hc => ?_
      have hl₂ := hc.1
      refine (h.block (by omega)).bind fun l₃ body body' hbody => twins_pure fun l₄ hl₄ => ?_
      have hl₃ := hbody.1
      exact ⟨by omega, by simp only [bare, bareAll_eq, hc.2, hbody.2]⟩
    · refine (twins_parseCount (by omega)).bind fun l₂ c c' hc => ?_
      have hl₂ := hc.1
      refine (h.block (by omega)).bind fun l₃ body body' hbody => twins_pure fun l₄ hl₄ => ?_
      have hl₃ := hbody.1
      obtain ⟨-, hinit, hcond, hinc⟩ := hc
      refine ⟨by omega, ?_⟩
      simp only [bare, bareAll_eq, Option.map_some, hinit, hcond, hinc, hbody.2]
    · refine (twins_expect l₁ .identifier).bind fun l₂ name name' hname => ?_
      have hl₂ := hname.1
      refine (twins_parseParams (by omega)).bind fun l₃ ps ps' hps => ?_
      have hl₃ := hps.1
      refine (h.block (by omega)).bind fun l₄ body body' hbody => twins_pure fun l₅ hl₅ => ?_
      have hl₄ := hbody.1
      exact ⟨by omega, by simp only [bare, bareAll_eq, hname.2.text, hps.2, hbody.2]⟩
    · refine (Expr.twins_parse (by omega)).bind fun l₂ e e' he => ?_
      have hl₂ := he.1
      refine (twins_expect l₂ .semicolon).bind fun l₃ _ _ hsemi => twins_pure fun l₄ hl₄ => ?_
      have hl₃ := hsemi.1
      exact ⟨by omega, by simp only [bare, he.2]⟩
    · exact (twins_parseNamed htu (by omega)).imp fun l₂ s s' hs => ⟨hs.1.trans hl₁, hs.2⟩
  · refine (twins_at? l₁ .elseIf).bind fun l₂ b b' hb => ?_
    obtain ⟨hl₂, rfl⟩ := hb
    refine (twins_at? l₂ .elseWord).bind fun l₃ b b' hb => ?_
    obtain ⟨hl₃, rfl⟩ := hb
    split_ifs <;> exact twins_fail

lemma Twin.block_succ (h : Twin n n') {l : Nat} (hn : 16 * l + 1 ≤ min (n + 1) (n' + 1)) :
    Twins l (parseBlock (n + 1)) (parseBlock (n' + 1)) (AllAlike l) := by
  refine (twins_expect l .lbrace).bind fun l₁ _ _ ho => ?_
  have hl₁ := ho.1
  exact (h.many .rbrace (by omega)).imp fun l₂ body body' hbody => ⟨hbody.1.trans hl₁, hbody.2⟩

/-- Statements up to a closing token are read alike. -/
lemma Twin.many_succ (h : Twin n n') {l : Nat} (close : Kind)
    (hn : 16 * l + 2 ≤ min (n + 1) (n' + 1)) :
    Twins l (parseUntil (n + 1) close) (parseUntil (n' + 1) close) (AllAlike l) := by
  refine (twins_next? l [close]).bind fun l₁ o o' ho => ?_
  obtain ⟨_, _, rfl, rfl, hl₁, -⟩ | ⟨rfl, rfl, hl₁⟩ := ho
  · exact twins_pure fun l₂ hl₂ => ⟨by omega, rfl⟩
  · refine (twins_atEnd l₁).bind fun l₂ b b' hb => ?_
    obtain ⟨hl₂, rfl⟩ := hb
    split_ifs
    · exact twins_fail
    · refine (h.statement (by omega)).bind fun l₃ s s' hs => ?_
      have hl₃ := hs.1
      refine (h.many close (by omega)).bind fun l₄ body body' hbody => twins_pure fun l₅ hl₅ => ?_
      have hl₄ := hbody.1
      exact ⟨by omega, by rw [List.map_cons, List.map_cons, hs.2, hbody.2]⟩

/-- The branches of a choice are read alike. -/
lemma Twin.branches_succ (h : Twin n n') {l : Nat} (hn : 16 * l + 1 ≤ min (n + 1) (n' + 1)) :
    Twins l (parseBranches (n + 1)) (parseBranches (n' + 1))
      fun l' bs bs' => l' ≤ l ∧ bs.map (Branch.bare id) = bs'.map (Branch.bare id) := by
  refine (twins_next? l [.elseIf, .elseWord]).bind fun l₁ o o' ho => ?_
  obtain ⟨t, u, rfl, rfl, hl₁, htu⟩ | ⟨rfl, rfl, hl₁⟩ := ho
  · dsimp only
    rw [← htu.kind]
    split_ifs
    · refine (Expr.twins_parseCondition (by omega)).bind fun l₂ c c' hc => ?_
      have hl₂ := hc.1
      refine (h.block (by omega)).bind fun l₃ body body' hbody => ?_
      have hl₃ := hbody.1
      refine (h.branches (by omega)).bind fun l₄ more more' hmore => twins_pure fun l₅ hl₅ => ?_
      have hl₄ := hmore.1
      refine ⟨by omega, ?_⟩
      simp only [List.map_cons, Branch.bare, bareAll_eq, hc.2, hbody.2, hmore.2]
    · refine (h.block (by omega)).bind fun l₂ body body' hbody => twins_pure fun l₃ hl₃ => ?_
      have hl₂ := hbody.1
      refine ⟨by omega, ?_⟩
      simp only [List.map_cons, List.map_nil, Branch.bare, bareAll_eq, hbody.2]
  · exact twins_pure fun l₂ hl₂ => ⟨by omega, rfl⟩

/-- **Rules for statements with sufficient budgets** are twins. -/
lemma twin : ∀ n n', Twin n n'
  | 0, _ => by constructor <;> (intros; omega)
  | _ + 1, 0 => by constructor <;> (intros; omega)
  | n + 1, n' + 1 =>
      have h := twin n n'
      ⟨h.statement_succ, h.block_succ, h.many_succ, h.branches_succ⟩

end Stmt

/-! ### Programs -/

namespace Program

/-- **The rule for programs** reads alike tokens alike, with any budgets that suffice. -/
lemma twin {n n' l : Nat} (hn : budget l ≤ min n n') :
    Twins l (rule n) (rule n') fun _ p p' => p.bare id = p'.bare id := by
  rw [budget] at hn
  refine (twins_expect l .programStart).bind fun l₁ head head' ho => ?_
  have hl₁ := ho.1
  refine ((Stmt.twin n n').many .programEnd (by omega)).bind fun l₂ body body' hbody => ?_
  refine (twins_atEnd l₂).bind fun l₃ b b' hb => ?_
  obtain ⟨-, rfl⟩ := hb
  split_ifs
  · refine twins_pure fun l₄ _ => ?_
    rw [bare, bare, hbody.2]
  · exact twins_fail

/-! ### Lists of tokens and source texts -/

/-- The tokens that are found are alike, also where both are made up. -/
lemma found_alike {ts us : List Token} (h : AllAlike ts us) (pos pos' : Pos) :
    (ts.head?.getD (Token.eof pos)).Alike (us.head?.getD (Token.eof pos')) := by
  cases h with
  | nil => exact ⟨rfl, rfl, rfl⟩
  | cons htu _ => exact htu

/-- **Alike lists of tokens are parsed alike.** -/
lemma parse_alike {ts us : List Token} (h : AllAlike ts us) :
    (∃ p q, parse ts = .ok p ∧ parse us = .ok q ∧ p.bare id = q.bare id)
      ∨ ∃ e e', parse ts = .error e ∧ parse us = .error e' ∧ e.expected = e'.expected
          ∧ e.detail = e'.detail ∧ e.found.Alike e'.found := by
  have hn : budget ts.length ≤ min (budget ts.length) (budget us.length) := by
    rw [h.length_eq, min_self]
  have hagree := twin hn _ _ h le_rfl
  rw [parse, parse]
  generalize rule (budget ts.length) ts = x at hagree ⊢
  generalize rule (budget us.length) us = y at hagree ⊢
  match x, y with
  | .ok (p, _), .ok (q, _) => exact Or.inl ⟨p, q, rfl, rfl, hagree.2⟩
  | .error f, .error g =>
      obtain ⟨hexpected, hdetail, hrest⟩ := hagree
      exact Or.inr ⟨_, _, rfl, rfl, hexpected, hdetail, found_alike hrest _ _⟩
  | .ok _, .error _ => exact hagree.elim
  | .error _, .ok _ => exact hagree.elim

/-- **Source texts with alike tokens** spell programs that are equal up to their layout, or none
for the same reason. -/
lemma ofSource_alike {src src' : Text} {ts us : List Token} (hts : tokenize src = .ok ts)
    (hus : tokenize src' = .ok us) (h : AllAlike ts us) :
    (∃ p q, ofSource src = .ok p ∧ ofSource src' = .ok q ∧ p.bare id = q.bare id)
      ∨ ∃ e e', ofSource src = .error (.parse e) ∧ ofSource src' = .error (.parse e')
          ∧ e.expected = e'.expected ∧ e.detail = e'.detail ∧ e.found.kind = e'.found.kind
          ∧ e.found.text = e'.found.text := by
  rw [ofSource, ofSource, hts, hus]
  dsimp only
  obtain ⟨p, q, hp, hq, hbare⟩ | ⟨e, e', he, he', hexpected, hdetail, hfound⟩ := parse_alike h
  · rw [hp, hq]
    exact Or.inl ⟨p, q, rfl, rfl, hbare⟩
  · rw [he, he']
    exact Or.inr ⟨e, e', rfl, rfl, hexpected, hdetail, hfound.kind, hfound.text⟩

end Program

end LessonLang
