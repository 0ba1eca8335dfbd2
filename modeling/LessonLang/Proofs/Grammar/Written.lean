import LessonLang.Machine.Operator
import LessonLang.Proofs.Grammar.Complete
import LessonLang.Proofs.Tree.Bare

/-!
Expressions written out as tokens, and read back.

* `Operator.level` and `Expr.level` say how tightly operators and expressions bind: by the place of
  their level in the grammar, and literals, identifiers and calls more tightly than all operators.
* `Parentheses` says which expressions stand in parentheses. They have to where the grammar would
  read something else without; `Parentheses.minimal` adds no others, and `Parentheses.full` puts
  them around every binary operation.
* `Expr.tokens` writes an expression. `Expr.Writable.spells`: whatever tokens say the same, they
  derive the expression again, by induction on the expression.
* `written_round_trip`: so the parser, which is complete for the grammar, finds the expression, and
  it stops behind its tokens.
-/

namespace LessonLang

open Rule

/-! ### How tightly expressions bind -/

namespace Operator

/-- The kind of the token of an operator. -/
def kind : Operator → Kind
  | add => .plus
  | sub => .minus
  | mul => .star
  | div => .slash
  | order .less => .less
  | order .greater => .greater
  | order .lessEq => .lessEq
  | order .greaterEq => .greaterEq
  | equal => .equal
  | notEqual => .notEqual

/-- The kind is the one that the scanner gives to the spelling. -/
example : ∀ entry ∈ spellings,
    (longOperators ++ shortOperators.map fun short => ([short.1], short.2)).lookup entry.1
      = some entry.2.kind := by
  decide

/-- The place of an operator among the levels of the grammar, the loosest of which is zero. -/
def level (o : Operator) : Nat := Expr.levels.findIdx fun ops => ops.contains o.kind

lemma exists_level (o : Operator) :
    ∃ ops, Expr.levels.drop o.level = ops :: Expr.levels.drop (o.level + 1) ∧ o.kind ∈ ops := by
  cases o with
  | order o => cases o <;> exact ⟨_, rfl, by decide⟩
  | _ => exact ⟨_, rfl, by decide⟩

lemma kind_ne_number (o : Operator) : o.kind ≠ .number := by
  cases o with
  | order o => cases o <;> decide
  | _ => decide

lemma level_lt (o : Operator) : o.level < Expr.levels.length := by
  cases o with
  | order o => cases o <;> decide
  | _ => decide

end Operator

namespace Expr

/-- How tightly an expression binds. -/
def level : Expr → Nat
  | .binary _ op _ _ => ((Operator.ofText? op).map Operator.level).getD levels.length
  | _ => levels.length

/-- **Expressions that can be written**: trees of number literals, string literals, identifiers,
calls and the ten operators. -/
inductive Writable : Expr → Prop where
  | number (span : Span) (x : Float) : Writable (.number span x)
  | string (span : Span) (t : Text) : Writable (.string span t)
  | identifier (span : Span) (name : Text) : Writable (.identifier span name)
  | binary {span : Span} {op : Text} {l r : Expr} (hop : (Operator.ofText? op).isSome = true)
      (hl : Writable l) (hr : Writable r) : Writable (.binary span op l r)
  | call {span : Span} {name : Text} {args : List Expr} (hargs : ∀ e ∈ args, Writable e) :
      Writable (.call span name args)

end Expr

/-! ### Writing -/

/-- **Where parentheses stand**: around an expression at a place where one that binds more loosely
than the level `floor` would be read differently without. There they are needed. -/
structure Parentheses where
  enclose (floor : Nat) (e : Expr) : Bool
  needed {floor : Nat} {e : Expr} (hfloor : floor ≤ Expr.levels.length) (he : e.level < floor) :
    enclose floor e = true

namespace Parentheses

/-- Only where they are needed. -/
def minimal : Parentheses where
  enclose floor e := e.level < floor
  needed _ he := decide_eq_true he

/-- Around every binary operation. -/
def full : Parentheses where
  enclose _ e := e.level < Expr.levels.length
  needed hfloor he := decide_eq_true (he.trans_le hfloor)

end Parentheses

/-- A token, somewhere. -/
def Token.word (k : Kind) (t : Text) : Token := ⟨k, t, 0, .unset⟩

/-- The tokens of an expression at its place, in parentheses or not. -/
def Parentheses.around (p : Parentheses) (floor : Nat) (e : Expr) (ts : List Token) : List Token :=
  if p.enclose floor e then .word .lparen [0x28] :: (ts ++ [.word .rparen [0x29]]) else ts

namespace Expr

mutual

/-- The tokens of an expression without parentheses around it. As operators of one level group to
the left, a left operand may be of the level of its operator, and a right operand may not. -/
def written (p : Parentheses) : Expr → List Token
  | .absent => []
  | .number _ x => [⟨.number, [], x, .unset⟩]
  | .string _ t => [.word .string t]
  | .identifier _ name => [.word .identifier name]
  | .binary _ op l r =>
    match Operator.ofText? op with
    | none => []
    | some o =>
      p.around o.level l (l.written p) ++ .word o.kind op :: p.around (o.level + 1) r (r.written p)
  | .call _ name args =>
    .word .identifier name :: .word .lparen [0x28] :: (writtenAll p args ++ [.word .rparen [0x29]])

/-- The tokens of arguments with commas between them. -/
def writtenAll (p : Parentheses) : List Expr → List Token
  | [] => []
  | [e] => p.around 0 e (e.written p)
  | e :: e' :: es =>
    p.around 0 e (e.written p) ++ .word .comma [0x2c] :: writtenAll p (e' :: es)

end

/-- **The tokens of an expression.** -/
def tokens (p : Parentheses) (e : Expr) : List Token := p.around 0 e (e.written p)

end Expr

/-- **Tokens that say the same**, wherever they stand. Of a number only the value counts. -/
structure Token.Same (t u : Token) : Prop where
  kind : t.kind = u.kind
  number : u.kind = .number → t.number = u.number
  text : u.kind ≠ .number → t.text = u.text

lemma Token.Same.refl (t : Token) : t.Same t := ⟨rfl, fun _ => rfl, fun _ => rfl⟩

lemma Token.Same.text_word {t : Token} {k : Kind} {text : Text} (h : t.Same (.word k text))
    (hk : k ≠ .number) : t.text = text := h.text hk

/-- Lists of tokens that say the same one by one. -/
abbrev AllSame (ts us : List Token) : Prop := List.Forall₂ Token.Same ts us

lemma AllSame.exists_append {ts us vs : List Token} (h : AllSame ts (us ++ vs)) :
    ∃ ts₁ ts₂, ts = ts₁ ++ ts₂ ∧ AllSame ts₁ us ∧ AllSame ts₂ vs :=
  ⟨ts.take us.length, ts.drop us.length, (List.take_append_drop _ _).symm,
    List.forall₂_take_append _ _ _ h, List.forall₂_drop_append _ _ _ h⟩

lemma AllSame.exists_cons {ts us : List Token} {u : Token} (h : AllSame ts (u :: us)) :
    ∃ t ts', ts = t :: ts' ∧ t.Same u ∧ AllSame ts' us := by
  obtain ⟨t, ts', ht, hts', rfl⟩ := List.forall₂_cons_right_iff.mp h
  exact ⟨t, ts', rfl, ht, hts'⟩

lemma AllSame.exists_single {ts : List Token} {u : Token} (h : AllSame ts [u]) :
    ∃ t, ts = [t] ∧ t.Same u := by
  obtain ⟨t, ts', rfl, ht, hts'⟩ := h.exists_cons
  obtain rfl := List.forall₂_nil_right_iff.mp hts'
  exact ⟨t, rfl, ht⟩

/-! ### Reading -/

namespace Expr

/-- What is derived on tighter levels is derived on looser ones. -/
lemma Derives.loosen {tighter : List (List Kind)} {ts : List Token} {e : Expr}
    (h : Derives tighter ts e) (looser : List (List Kind)) : Derives (looser ++ tighter) ts e := by
  induction looser with
  | nil => exact h
  | cons ops looser ih => exact .tighter ih

lemma Derives.of_le {i j : Nat} (hij : i ≤ j) {ts : List Token} {e : Expr}
    (h : Derives (levels.drop j) ts e) : Derives (levels.drop i) ts e := by
  have hsplit : levels.drop i = (levels.drop i).take (j - i) ++ levels.drop j := by
    calc levels.drop i
        = (levels.drop i).take (j - i) ++ (levels.drop i).drop (j - i) :=
          (List.take_append_drop _ _).symm
      _ = (levels.drop i).take (j - i) ++ levels.drop j := by
          rw [List.drop_drop, Nat.add_sub_cancel' hij]
  rw [hsplit]
  exact h.loosen _

lemma DerivesOperand.derives {ts : List Token} {e : Expr} (h : DerivesOperand ts e) (i : Nat) :
    Derives (levels.drop i) ts e := by
  have hloose := (Derives.operand h).loosen (levels.drop i)
  rwa [List.append_nil] at hloose

/-- **The tokens spell the expression** on the level `i`, up to places. -/
def Spells (i : Nat) (ts : List Token) (e : Expr) : Prop :=
  ∃ e', Derives (levels.drop i) ts e' ∧ e'.bare = e.bare

variable {p : Parentheses}

/-- Parentheses let an expression stand anywhere, and where there are none it binds tightly
enough. -/
lemma Spells.around {floor : Nat} {e : Expr} (hfloor : floor ≤ levels.length)
    (h : ∀ ts, AllSame ts (e.written p) → Spells e.level ts e) {ts : List Token}
    (hts : AllSame ts (p.around floor e (e.written p))) : Spells floor ts e := by
  rw [Parentheses.around] at hts
  by_cases henclose : p.enclose floor e = true
  · rw [if_pos henclose] at hts
    obtain ⟨o, us, rfl, ho, hus⟩ := hts.exists_cons
    obtain ⟨vs, cs, rfl, hvs, hcs⟩ := hus.exists_append
    obtain ⟨c, rfl, hc⟩ := hcs.exists_single
    obtain ⟨e', hd, hbare⟩ := h vs hvs
    have hparens : DerivesOperand (o :: (vs ++ [c])) e' :=
      .parens ho.kind (hd.of_le (Nat.zero_le _)) hc.kind
    exact ⟨e', hparens.derives floor, hbare⟩
  · rw [if_neg henclose] at hts
    have hlevel : floor ≤ e.level := by
      by_contra hlt
      exact henclose (p.needed hfloor (Nat.lt_of_not_le hlt))
    obtain ⟨e', hd, hbare⟩ := h ts hts
    exact ⟨e', hd.of_le hlevel, hbare⟩

/-- Arguments with commas between them. -/
lemma exists_derivesItems {e : Expr} {es : List Expr}
    (h : ∀ e' ∈ e :: es, ∀ ts, AllSame ts (e'.written p) → Spells e'.level ts e')
    {ts : List Token} (hts : AllSame ts (writtenAll p (e :: es))) :
    ∃ es', DerivesItems ts es' ∧ es'.map bare = (e :: es).map bare := by
  induction es generalizing e ts with
  | nil =>
      obtain ⟨e', hd, hbare⟩ := Spells.around (Nat.zero_le _) (h e (by simp)) hts
      exact ⟨[e'], .last hd, by rw [List.map_cons, hbare]; rfl⟩
  | cons e₁ es ih =>
      rw [writtenAll] at hts
      obtain ⟨us, vs, rfl, hus, hvs⟩ := hts.exists_append
      obtain ⟨comma, rest, rfl, hcomma, hrest⟩ := hvs.exists_cons
      obtain ⟨e', hd, hbare⟩ := Spells.around (Nat.zero_le _) (h e (by simp)) hus
      obtain ⟨es', hitems, hmap⟩ := ih (fun e' he' => h e' (List.mem_cons_of_mem _ he')) hrest
      exact ⟨e' :: es', .more hd hcomma.kind hitems, by rw [List.map_cons, hbare, hmap]; rfl⟩

/-- **Whatever tokens say what an expression says spell it.** -/
lemma Writable.spells {e : Expr} (he : e.Writable) :
    ∀ ts, AllSame ts (e.written p) → Spells e.level ts e := by
  induction he with
  | number span x =>
      intro ts hts
      obtain ⟨t, rfl, ht⟩ := hts.exists_single
      exact ⟨_, (DerivesOperand.number ht.kind).derives _, by rw [bare, ht.number rfl]; rfl⟩
  | string span text =>
      intro ts hts
      obtain ⟨t, rfl, ht⟩ := hts.exists_single
      have htext := ht.text_word (by decide)
      exact ⟨_, (DerivesOperand.string ht.kind).derives _, by rw [bare, htext]; rfl⟩
  | identifier span name =>
      intro ts hts
      obtain ⟨t, rfl, ht⟩ := hts.exists_single
      have htext := ht.text_word (by decide)
      exact ⟨_, (DerivesOperand.identifier ht.kind).derives _, by rw [bare, htext]; rfl⟩
  | @binary span op l r hop _ _ ihl ihr =>
      intro ts hts
      obtain ⟨o, ho⟩ := Option.isSome_iff_exists.mp hop
      simp only [written, ho] at hts
      obtain ⟨ls, us, rfl, hls, hus⟩ := hts.exists_append
      obtain ⟨t, rs, rfl, ht, hrs⟩ := hus.exists_cons
      obtain ⟨l', hl, hbarel⟩ := Spells.around o.level_lt.le ihl hls
      obtain ⟨r', hr, hbarer⟩ := Spells.around o.level_lt ihr hrs
      obtain ⟨ops, hdrop, hmem⟩ := o.exists_level
      have hlevel : level (.binary span op l r) = o.level := by simp [level, ho]
      have htext : t.text = op := ht.text_word o.kind_ne_number
      have hkind : t.kind ∈ ops := ht.kind ▸ hmem
      refine ⟨.binary t.span t.text l' r', ?_, ?_⟩
      · rw [hlevel, hdrop]
        exact .binary (hdrop ▸ hl) hkind hr
      · simp only [bare, hbarel, hbarer, htext]
  | @call span name args _ ih =>
      intro ts hts
      rw [written] at hts
      obtain ⟨t, us, rfl, ht, hus⟩ := hts.exists_cons
      obtain ⟨o, vs, rfl, ho, hvs⟩ := hus.exists_cons
      obtain ⟨is, cs, rfl, his, hcs⟩ := hvs.exists_append
      obtain ⟨c, rfl, hc⟩ := hcs.exists_single
      have hargs : ∃ args', DerivesArguments (o :: (is ++ [c])) args'
          ∧ args'.map bare = args.map bare := by
        cases args with
        | nil =>
            obtain rfl := List.forall₂_nil_right_iff.mp his
            exact ⟨[], .none ho.kind hc.kind, rfl⟩
        | cons e es =>
            obtain ⟨es', hitems, hmap⟩ := exists_derivesItems ih his
            exact ⟨es', .some ho.kind hitems hc.kind, hmap⟩
      obtain ⟨args', hd, hmap⟩ := hargs
      have htext := ht.text_word (by decide)
      refine ⟨_, (DerivesOperand.call ht.kind hd).derives _, ?_⟩
      simp only [bare, bareAll_eq, hmap, htext]

/-- An expression is read up to a rest that does not go on with it. -/
lemma Derives.parse_append {ts rest : List Token} {e : Expr} (h : Derives levels ts e)
    (hrest : Clear (.lparen :: levels.flatten) rest) {n : Nat}
    (hn : Program.budget (ts ++ rest).length ≤ n) : parse n (ts ++ rest) = .ok (e, rest) := by
  have hbudget : 16 * ts.length + levels.length < n := by
    rw [Program.budget, List.length_append] at hn
    rw [show levels.length = 4 from rfl]
    omega
  exact (h.opens graded_levels hbudget rest).complete hbudget hrest

end Expr

/-- **Written expressions are read back.** An expression of literals, identifiers, calls and the ten
operators is written with operators between their operands, and with parentheses around a left
operand that binds more loosely than its operator, around a right operand that does not bind more
tightly, and nowhere else (`Parentheses.minimal`), or around every binary operation
(`Parentheses.full`), or wherever else one likes. From tokens that say this, and any further ones
that start neither with a binary operator nor with an opening parenthesis, the parser reads the same
expression, up to the places of its nodes, and exactly those tokens. -/
theorem written_round_trip {e : Expr} (he : e.Writable) (p : Parentheses) {ts rest : List Token}
    (hts : AllSame ts (e.tokens p)) (hrest : Clear (.lparen :: Expr.levels.flatten) rest) {n : Nat}
    (hn : Program.budget (ts ++ rest).length ≤ n) :
    ∃ e', Expr.parse n (ts ++ rest) = .ok (e', rest) ∧ e'.bare = e.bare := by
  obtain ⟨e', hd, hbare⟩ := Expr.Spells.around (Nat.zero_le _) (fun _ => he.spells _) hts
  exact ⟨e', hd.parse_append hrest hn, hbare⟩

/-- A product of a sum and of what a function makes of a difference with a difference in it. -/
def nestedExpr : Expr :=
  .binary none (utf8 "*")
    (.binary none (utf8 "+") (.identifier none [0x61]) (.number none 2))
    (.call none [0x66]
      [.binary none (utf8 "-") (.string none [0x62])
        (.binary none (utf8 "-") (.identifier none [0x61]) (.identifier none [0x63])),
       .number none 1])

/-- Its two ways through the parser, in front of a semicolon. -/
theorem written_round_trip_nested :
    (nestedExpr.tokens .minimal).map Token.kind
        = [.lparen, .identifier, .plus, .number, .rparen, .star, .identifier, .lparen, .string,
          .minus, .lparen, .identifier, .minus, .identifier, .rparen, .comma, .number, .rparen]
      ∧ (nestedExpr.tokens .full).length = 22
      ∧ (∃ e', Expr.parse 400 (nestedExpr.tokens .minimal ++ [.word .semicolon [0x3b]])
          = .ok (e', [.word .semicolon [0x3b]]) ∧ e'.bare = nestedExpr.bare)
      ∧ ∃ e', Expr.parse 400 (nestedExpr.tokens .full ++ [.word .semicolon [0x3b]])
          = .ok (e', [.word .semicolon [0x3b]]) ∧ e'.bare = nestedExpr.bare := by
  have hwritable : nestedExpr.Writable := by
    refine .binary (by decide) (.binary (by decide) (.identifier _ _) (.number _ _)) (.call ?_)
    intro e he
    obtain rfl | he := List.mem_cons.mp he
    · exact .binary (by decide) (.string _ _)
        (.binary (by decide) (.identifier _ _) (.identifier _ _))
    · obtain rfl := List.mem_singleton.mp he
      exact .number _ _
  have hsemicolon : Clear (.lparen :: Expr.levels.flatten) [Token.word .semicolon [0x3b]] :=
    clear_cons.mpr (by decide)
  refine ⟨rfl, rfl, ?_, ?_⟩
  · exact written_round_trip hwritable .minimal (List.forall₂_same.mpr fun t _ => .refl t)
      hsemicolon (by decide)
  · exact written_round_trip hwritable .full (List.forall₂_same.mpr fun t _ => .refl t)
      hsemicolon (by decide)

end LessonLang
