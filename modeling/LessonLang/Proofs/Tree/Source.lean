import LessonLang.Proofs.Grammar.Cut
import LessonLang.Proofs.Tree.Whole

/-!
Trees of source texts are whole.

* `Token.Whole` says what scanning makes sure of: a token stands on a line of the text, and one of
  the kinds that stand between operands is spelled like an operator. `tokenize_whole` shows it of
  every token of a source text.
* `Stmt.Derives.whole`: what whole tokens spell in the grammar is a whole tree.
* `Program.whole_of_source`: so the tree of every source text is whole, on the lines of the text.
-/

namespace LessonLang

/-! ### Tokens -/

/-- **A token as scanning makes them.** -/
structure Token.Whole (t : Token) : Prop where
  line : 1 ≤ t.pos.line
  operator : t.kind ∈ Expr.levels.flatten → (Operator.ofText? t.text).isSome = true

/-- A byte leads to no earlier line. -/
lemma Pos.line_le_step (p : Pos) (b : UInt8) : p.line ≤ (p.step b).line := by
  rw [step]
  split_ifs
  · exact Int.le_add_one le_rfl
  · exact le_rfl

/-- Nor does a text. -/
lemma Pos.line_le_advance (p : Pos) (t : Text) : p.line ≤ (p.advance t).line := by
  induction t generalizing p with
  | nil => exact le_rfl
  | cons b t ih => exact (p.line_le_step b).trans (ih (p.step b))

/-- No keyword phrase is an operator. -/
lemma keyword_not_operator : ∀ entry ∈ keywords, entry.2 ∉ Expr.levels.flatten := by decide

lemma longOperator_text :
    ∀ entry ∈ longOperators, (Operator.ofText? entry.1).isSome = true := by decide

lemma shortOperator_text : ∀ entry ∈ shortOperators, entry.2 ∈ Expr.levels.flatten →
    (Operator.ofText? [entry.1]).isSome = true := by decide

/-- **A lexeme of an operator kind** is spelled like an operator. -/
lemma lexeme_operator {b : UInt8} {rest : Text} {kind : Kind} {behind : Nat}
    (h : lexeme b rest = .ok (kind, behind)) (hkind : kind ∈ Expr.levels.flatten) :
    (Operator.ofText? (b :: rest.take behind)).isSome = true := by
  rw [lexeme] at h
  split at h
  next k length hkey =>
    obtain ⟨rfl, -⟩ := Prod.mk.inj (Except.ok.inj h)
    obtain ⟨entry, hfind, hentry⟩ := Option.map_eq_some_iff.mp hkey
    obtain ⟨rfl, -⟩ := Prod.mk.inj hentry
    exact absurd hkind (keyword_not_operator entry (List.mem_of_find?_eq_some hfind))
  split at h
  next k hlong =>
    obtain ⟨rfl, rfl⟩ := Prod.mk.inj (Except.ok.inj h)
    obtain ⟨before, after, hmem, -⟩ := List.lookup_eq_some_iff.mp hlong
    exact longOperator_text (_, k) (by simp [hmem])
  split at h
  next k hshort =>
    obtain ⟨rfl, rfl⟩ := Prod.mk.inj (Except.ok.inj h)
    obtain ⟨before, after, hmem, -⟩ := List.lookup_eq_some_iff.mp hshort
    exact shortOperator_text (b, k) (by simp [hmem]) hkind
  split_ifs at h
  · split at h
    · obtain ⟨rfl, -⟩ := Prod.mk.inj (Except.ok.inj h)
      exact absurd hkind (by decide)
    · simp at h
  · obtain ⟨rfl, -⟩ := Prod.mk.inj (Except.ok.inj h)
    exact absurd hkind (by decide)
  · obtain ⟨rfl, -⟩ := Prod.mk.inj (Except.ok.inj h)
    exact absurd hkind (by decide)
  · split at h <;> simp at h

/-- The token of a lexeme is whole if its line is there and it spells its operator. -/
lemma Token.ofLexeme_whole {kind : Kind} {raw : Text} {pos : Pos} (hpos : 1 ≤ pos.line)
    (h : kind ∈ Expr.levels.flatten → (Operator.ofText? raw).isSome = true) :
    (Token.ofLexeme kind raw pos).Whole := by
  rw [Token.ofLexeme.eq_def]
  split
  · exact ⟨hpos, fun hk => absurd hk (by simp [Expr.levels])⟩
  · exact ⟨hpos, fun hk => absurd hk (by simp [Expr.levels])⟩
  · exact ⟨hpos, h⟩

/-- **What scanning does**: behind a gap stands the end of the text or a lexeme, and scanning goes
on behind that. -/
lemma tokenizeFrom_ok {pos : Pos} {src : Text} {ts : List Token}
    (h : tokenizeFrom pos src = .ok ts) :
    ∃ gap, ts = [Token.eof (pos.advance (src.take gap))]
      ∨ ∃ b rest kind behind ts', src.drop gap = b :: rest ∧ lexeme b rest = .ok (kind, behind)
        ∧ tokenizeFrom ((pos.advance (src.take gap)).advance (b :: rest.take behind))
            (rest.drop behind) = .ok ts'
        ∧ ts = Token.ofLexeme kind (b :: rest.take behind) (pos.advance (src.take gap)) :: ts' := by
  refine ⟨gapLength (.blank 0) src, ?_⟩
  rw [tokenizeFrom] at h
  split at h
  next => exact Or.inl (Except.ok.inj h).symm
  next b rest hstart =>
    split at h
    next => exact absurd h (by simp)
    next kind behind hlex =>
      refine Or.inr ⟨b, rest, kind, behind, ?_⟩
      dsimp only at h
      cases hrest : tokenizeFrom ((pos.advance (src.take (gapLength (.blank 0) src))).advance
          (b :: rest.take behind)) (rest.drop behind) with
      | error e =>
          rw [hrest] at h
          exact absurd h (by simp [bind, Except.bind])
      | ok ts' =>
          rw [hrest] at h
          exact ⟨ts', hstart, hlex, rfl, (Except.ok.inj h).symm⟩

/-- **The tokens of a source text** are whole. -/
lemma tokenizeFrom_whole {pos : Pos} {src : Text} {ts : List Token}
    (h : tokenizeFrom pos src = .ok ts) (hpos : 1 ≤ pos.line) : ∀ t ∈ ts, t.Whole := by
  obtain ⟨gap, rfl | ⟨b, rest, kind, behind, ts', hstart, hlex, hrest, rfl⟩⟩ := tokenizeFrom_ok h
  · intro t ht
    obtain rfl := List.mem_singleton.mp ht
    exact ⟨hpos.trans (pos.line_le_advance _),
      fun hk => absurd hk (by simp [Token.eof, Expr.levels])⟩
  · have hline : 1 ≤ (pos.advance (src.take gap)).line := hpos.trans (pos.line_le_advance _)
    have hlen : (rest.drop behind).length < src.length := by
      have := congrArg List.length hstart
      simp only [List.length_drop, List.length_cons] at *
      omega
    intro t ht
    obtain rfl | ht := List.mem_cons.mp ht
    · exact Token.ofLexeme_whole hline fun hkind => lexeme_operator hlex hkind
    · exact tokenizeFrom_whole hrest (hline.trans (Pos.line_le_advance _ _)) t ht
termination_by src.length
decreasing_by exact hlen

/-- **All tokens of a source text** are whole. -/
lemma tokenize_whole {src : Text} {ts : List Token} (h : tokenize src = .ok ts) :
    ∀ t ∈ ts, t.Whole :=
  tokenizeFrom_whole h le_rfl

/-! ### Trees -/

/-- The place of a whole token. -/
lemma Token.Whole.span {t : Token} (ht : t.Whole) : Span.Whole (fun p => 1 ≤ p.line) t.span :=
  ⟨_, rfl, ht.line⟩

namespace Expr

mutual

lemma Derives.whole : ∀ {levels : List (List Kind)} {ts : List Token} {e : Expr},
    Derives levels ts e → levels.flatten ⊆ Expr.levels.flatten → (∀ t ∈ ts, t.Whole) →
    e.Whole fun p => 1 ≤ p.line
  | _, _, _, .operand h, _, hts => h.whole hts
  | _, _, _, .tighter h, hlevels, hts =>
      h.whole (fun k hk => hlevels (by simp [hk])) hts
  | _, _, _, .binary hl hop hr, hlevels, hts =>
      have hops := hts _ (by simp)
      .binary hops.span (hops.operator (hlevels (by simp [hop])))
        (hl.whole hlevels fun t ht => hts t (by simp [ht]))
        (hr.whole (fun k hk => hlevels (by simp [hk])) fun t ht => hts t (by simp [ht]))

lemma DerivesOperand.whole : ∀ {ts : List Token} {e : Expr},
    DerivesOperand ts e → (∀ t ∈ ts, t.Whole) → e.Whole fun p => 1 ≤ p.line
  | _, _, .negate _ h, hts =>
      have hop := (hts _ (by simp)).span
      .binary hop (by decide) (.number hop) (h.whole fun t ht => hts t (by simp [ht]))
  | _, _, .number _, hts => .number (hts _ (by simp)).span
  | _, _, .string _, hts => .string (hts _ (by simp)).span
  | _, _, .identifier _, hts => .identifier (hts _ (by simp)).span
  | _, _, .call _ h, hts =>
      .call (hts _ (by simp)).span (h.whole fun t ht => hts t (by simp [ht]))
  | _, _, .parens _ h _, hts => h.whole (fun _ hk => hk) fun t ht => hts t (by simp [ht])

lemma DerivesArguments.whole : ∀ {ts : List Token} {args : List Expr},
    DerivesArguments ts args → (∀ t ∈ ts, t.Whole) → ∀ e ∈ args, e.Whole fun p => 1 ≤ p.line
  | _, _, .none _ _, _ => by simp
  | _, _, .some _ h _, hts => h.whole fun t ht => hts t (by simp [ht])

lemma DerivesItems.whole : ∀ {ts : List Token} {args : List Expr},
    DerivesItems ts args → (∀ t ∈ ts, t.Whole) → ∀ e ∈ args, e.Whole fun p => 1 ≤ p.line
  | _, _, .last h, hts => by
      have he := h.whole (fun _ hk => hk) hts
      simpa using he
  | _, _, .more h _ hmore, hts => by
      have he := h.whole (fun _ hk => hk) fun t ht => hts t (by simp [ht])
      have hes := hmore.whole fun t ht => hts t (by simp [ht])
      simpa using ⟨he, hes⟩

end

/-- A condition of whole tokens is whole. -/
lemma DerivesCondition.whole {ts : List Token} {e : Expr} (h : DerivesCondition ts e)
    (hts : ∀ t ∈ ts, t.Whole) : e.Whole fun p => 1 ≤ p.line := by
  cases h with
  | mk _ h _ => exact h.whole (fun _ hk => hk) fun t ht => hts t (by simp [ht])

end Expr

/-- An assignment of whole tokens is whole. -/
lemma Assignment.Derives.whole {head : Token} {declared : Bool} {ts : List Token} {a : Assignment}
    (h : Assignment.Derives head declared ts a) (hhead : head.Whole) (hts : ∀ t ∈ ts, t.Whole) :
    a.Whole fun p => 1 ≤ p.line := by
  cases h with
  | mk _ _ h _ => exact ⟨hhead.span, h.whole (fun _ hk => hk) fun t ht => hts t (by simp [ht])⟩

/-- The three parts of the head of a counting loop. -/
lemma DerivesCount.whole {ts : List Token} {init inc : Assignment} {c : Expr}
    (h : DerivesCount ts (init, c, inc)) (hts : ∀ t ∈ ts, t.Whole) :
    init.Whole (fun p => 1 ≤ p.line) ∧ c.Whole (fun p => 1 ≤ p.line)
      ∧ inc.Whole fun p => 1 ≤ p.line := by
  cases h with
  | mk _ _ hinit hc _ _ _ hvalue _ _ =>
      refine ⟨hinit.whole (hts _ (by simp)) fun t ht => hts t (by simp [ht]), ?_, ?_, ?_⟩
      · exact hc.whole (fun _ hk => hk) fun t ht => hts t (by simp [ht])
      · exact (hts _ (by simp)).span
      · exact hvalue.whole (fun _ hk => hk) fun t ht => hts t (by simp [ht])

namespace Stmt

mutual

lemma Derives.whole : ∀ {ts : List Token} {st : Stmt},
    Derives ts st → (∀ t ∈ ts, t.Whole) → st.Whole fun p => 1 ≤ p.line
  | _, _, .declare _ h, hts => .assign (h.whole (hts _ (by simp)) fun t ht => hts t (by simp [ht]))
  | _, _, .assign h, hts => .assign (h.whole (hts _ (by simp)) hts)
  | _, _, .print _ h _, hts =>
      .print (hts _ (by simp)).span (h.whole (fun _ hk => hk) fun t ht => hts t (by simp [ht]))
  | _, _, .input _ _ _, hts => .input (hts _ (by simp)).span
  | _, _, .giveBack _ h _, hts =>
      .giveBack (hts _ (by simp)).span (h.whole (fun _ hk => hk) fun t ht => hts t (by simp [ht]))
  | _, _, .call _ h _, hts =>
      .call (hts _ (by simp)).span (h.whole fun t ht => hts t (by simp [ht]))
  | _, _, .choose _ hcondition hbody hmore, hts =>
      have hspan := (hts _ (by simp)).span
      have hfirst := Branch.Whole.mk hspan
        (Or.inr (hcondition.whole fun t ht => hts t (by simp [ht])))
        (hbody.whole fun t ht => hts t (by simp [ht]))
      .choose hspan (List.forall_mem_cons.mpr
        ⟨hfirst, hmore.whole fun t ht => hts t (by simp [ht])⟩)
  | _, _, .loop _ hcondition hbody, hts =>
      .loop (hts _ (by simp)).span (hcondition.whole fun t ht => hts t (by simp [ht]))
        (hbody.whole fun t ht => hts t (by simp [ht]))
  | _, _, .count _ hcount hbody, hts =>
      have hhead := hcount.whole fun t ht => hts t (by simp [ht])
      .count (hts _ (by simp)).span hhead.1 hhead.2.1 hhead.2.2
        (hbody.whole fun t ht => hts t (by simp [ht]))
  | _, _, .function _ _ _ hbody, hts =>
      .function (hts _ (by simp)).span (hbody.whole fun t ht => hts t (by simp [ht]))

lemma DerivesBlock.whole : ∀ {ts : List Token} {body : List Stmt},
    DerivesBlock ts body → (∀ t ∈ ts, t.Whole) → ∀ st ∈ body, st.Whole fun p => 1 ≤ p.line
  | _, _, .mk _ h _, hts => h.whole fun t ht => hts t (by simp [ht])

lemma DerivesMany.whole : ∀ {ts : List Token} {body : List Stmt},
    DerivesMany ts body → (∀ t ∈ ts, t.Whole) → ∀ st ∈ body, st.Whole fun p => 1 ≤ p.line
  | _, _, .none, _ => by simp
  | _, _, .more h hmore, hts =>
      List.forall_mem_cons.mpr
        ⟨h.whole fun t ht => hts t (by simp [ht]), hmore.whole fun t ht => hts t (by simp [ht])⟩

lemma DerivesBranches.whole : ∀ {ts : List Token} {bs : List Branch},
    DerivesBranches ts bs → (∀ t ∈ ts, t.Whole) → ∀ b ∈ bs, b.Whole fun p => 1 ≤ p.line
  | _, _, .none, _ => by simp
  | _, _, .elseIf _ hcondition hbody hmore, hts =>
      List.forall_mem_cons.mpr
        ⟨.mk (hts _ (by simp)).span (Or.inr (hcondition.whole fun t ht => hts t (by simp [ht])))
            (hbody.whole fun t ht => hts t (by simp [ht])),
          hmore.whole fun t ht => hts t (by simp [ht])⟩
  | _, _, .otherwise _ hbody, hts =>
      List.forall_mem_singleton.mpr
        (.mk (hts _ (by simp)).span (Or.inl rfl) (hbody.whole fun t ht => hts t (by simp [ht])))

end

end Stmt

/-- **A program of whole tokens** is whole. -/
lemma Program.Derives.whole {ts : List Token} {p : Program} (h : Program.Derives ts p)
    (hts : ∀ t ∈ ts, t.Whole) : p.Whole fun place => 1 ≤ place.line := by
  cases h with
  | mk _ h _ => exact ⟨(hts _ (by simp)).span, h.whole fun t ht => hts t (by simp [ht])⟩

/-- **The tree of a source text** is whole, and its places are on the lines of the text. -/
lemma Program.whole_of_source {src : Text} {p : Program} (h : Program.ofSource src = .ok p) :
    p.Whole fun place => 1 ≤ place.line := by
  rw [ofSource] at h
  split at h
  next => exact absurd h (by simp)
  next ts hscan =>
    split at h
    next => exact absurd h (by simp)
    next p' hparse =>
      obtain rfl := Except.ok.inj h
      exact (derives_of_parse hparse).whole fun t ht =>
        tokenize_whole hscan t ((List.takeWhile_sublist _).mem ht)

end LessonLang
