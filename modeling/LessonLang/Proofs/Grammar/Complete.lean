import LessonLang.Proofs.Grammar.Cut

/-!
The parser accepts everything that the grammar derives, and finds the tree of the derivation.

A rule is run on the tokens of a derivation followed by a `rest` that it has to leave alone. That
needs two conditions. The rest must not go on with a token that the rule would take as well: an
opening parenthesis behind a name, an operator, the next branch of an if-chain (`Clear`). And the
budget must suffice: sixteen for every token of the derivation is enough for every rule.

* `Expr.Derives.complete` and `Stmt.Derives.complete` are the statements for expressions and
  statements. A level of operators is left recursive in the grammar and a loop in the parser:
  `Expr.Opens` says how far the loop has come when the tokens of a derivation are used up.
* `Program.parse_eq_ok_iff_derives`: together with `Program.derives_of_parse`, **the parser
  accepts exactly the grammar**; as it is a function, no list of tokens spells two programs.
-/

namespace LessonLang

open Rule

/-! ### Expressions -/

namespace Expr

/-- No kind belongs to two levels, and the opening parenthesis to none. -/
def Graded (levels : List (List Kind)) : Prop := (Kind.lparen :: levels.flatten).Nodup

/-- No operator stands at two levels. -/
lemma graded_levels : Graded levels := by
  rw [Graded]
  decide

lemma Graded.tail {ops : List Kind} {levels : List (List Kind)} (h : Graded (ops :: levels)) :
    Graded levels := by
  rw [Graded, List.flatten_cons, List.nodup_cons, List.nodup_append] at h
  rw [Graded, List.nodup_cons]
  exact ⟨fun hp => h.1 (List.mem_append_right _ hp), h.2.2.1⟩

/-- An operator of a level ends the operands of the tighter levels. -/
lemma Graded.clear {ops : List Kind} {levels : List (List Kind)} (h : Graded (ops :: levels))
    {op : Token} (hop : op.kind ∈ ops) (ts : List Token) :
    Clear (.lparen :: levels.flatten) (op :: ts) := by
  rw [Graded, List.flatten_cons, List.nodup_cons, List.nodup_append] at h
  rw [clear_cons, List.mem_cons]
  rintro (hp | hp)
  · exact h.1 (List.mem_append_left _ (hp ▸ hop))
  · exact h.2.2.2 _ hop _ hp rfl

/-- **How far a level has come** when it has read the tokens `ts` of a derivation: without
operators it is through, and with operators it goes on with the loop that looks for the next one.
-/
def Opens (n : Nat) (ts rest : List Token) (e : Expr) : List (List Kind) → Prop
  | [] => Clear [.lparen] rest → parseLevels n [] (ts ++ rest) = .ok (e, rest)
  | ops :: tighter =>
      Clear (.lparen :: tighter.flatten) rest →
        ∃ m, n ≤ m + ts.length + 1 ∧
          parseLevels n (ops :: tighter) (ts ++ rest) = parseChain m ops tighter e rest

/-- Where no operator of the level follows, the left operand is all. -/
lemma parseChain_of_clear {n : Nat} {ops : List Kind} {tighter : List (List Kind)} {e : Expr}
    {rest : List Token} (hrest : Clear ops rest) :
    parseChain (n + 1) ops tighter e rest = .ok (e, rest) := by
  rw [parseChain, bind_of_ok (next?_of_clear hrest)]
  rfl

/-- The loop of a level ends in front of a rest that no operator starts. -/
lemma Opens.complete {n : Nat} {ts rest : List Token} {e : Expr} {levels : List (List Kind)}
    (h : Opens n ts rest e levels) (hn : 16 * ts.length + levels.length < n)
    (hrest : Clear (.lparen :: levels.flatten) rest) :
    parseLevels n levels (ts ++ rest) = .ok (e, rest) := by
  cases levels with
  | nil => exact h hrest
  | cons ops tighter =>
      obtain ⟨m, hm, heq⟩ := h (hrest.mono (by simp))
      obtain ⟨m, rfl⟩ : ∃ k, m = k + 1 := ⟨m - 1, by rw [List.length_cons] at hn; omega⟩
      rw [heq]
      exact parseChain_of_clear (hrest.mono (by simp))

/-- An operator of a level is read together with the operand on its right. -/
lemma parseChain_cons {n : Nat} {ops : List Kind} {tighter : List (List Kind)} {l r : Expr}
    {op : Token} {ts rest : List Token} (hop : op.kind ∈ ops)
    (hr : parseLevels n tighter ts = .ok (r, rest)) :
    parseChain (n + 1) ops tighter l (op :: ts)
      = parseChain n ops tighter (.binary op.span op.text l r) rest := by
  rw [parseChain, bind_of_ok (next?_cons hop)]
  exact bind_of_ok hr

/-- The kinds that stand behind an expression. -/
def closings : List Kind := [.rparen, .comma, .semicolon]

lemma closing_of_rparen {t : Token} (ht : t.kind = .rparen) : t.kind ∈ closings := by
  simp [closings, ht]

lemma closing_of_comma {t : Token} (ht : t.kind = .comma) : t.kind ∈ closings := by
  simp [closings, ht]

lemma closing_of_semicolon {t : Token} (ht : t.kind = .semicolon) : t.kind ∈ closings := by
  simp [closings, ht]

/-- A token that closes an expression does not go on with it. -/
lemma clear_of_closing {t : Token} (ht : t.kind ∈ closings) (ts : List Token) :
    Clear (.lparen :: levels.flatten) (t :: ts) := by
  rw [clear_cons]
  revert ht
  generalize t.kind = k
  intro hk
  simp only [closings, List.mem_cons, List.not_mem_nil, or_false] at hk
  rcases hk with rfl | rfl | rfl <;> decide

/-- An expression is read up to the token that closes it. -/
lemma Opens.closed {n : Nat} {ts rest : List Token} {c : Token} {e : Expr}
    (h : Opens n ts (c :: rest) e levels) (hn : 16 * ts.length + 4 < n) (hc : c.kind ∈ closings) :
    parseLevels n levels (ts ++ c :: rest) = .ok (e, c :: rest) :=
  h.complete hn (clear_of_closing hc rest)

/-- The kinds that an operand starts with. -/
def starts : List Kind := [.minus, .number, .string, .identifier, .lparen]

/-- An operand starts with a token that the rule for operands looks for. -/
lemma DerivesOperand.start {ts : List Token} {e : Expr} (h : DerivesOperand ts e) :
    ∃ t us, ts = t :: us ∧ t.kind ∈ starts := by
  cases h with
  | negate hop _ => exact ⟨_, _, rfl, by simp [starts, hop]⟩
  | number ht => exact ⟨_, _, rfl, by simp [starts, ht]⟩
  | string ht => exact ⟨_, _, rfl, by simp [starts, ht]⟩
  | identifier ht => exact ⟨_, _, rfl, by simp [starts, ht]⟩
  | call ht _ => exact ⟨_, _, rfl, by simp [starts, ht]⟩
  | parens ho _ _ => exact ⟨_, _, rfl, by simp [starts, ho]⟩

/-- An expression starts as its first operand does. -/
lemma Derives.start : ∀ {levels : List (List Kind)} {ts : List Token} {e : Expr},
    Derives levels ts e → ∃ t us, ts = t :: us ∧ t.kind ∈ starts
  | _, _, _, .operand h => h.start
  | _, _, _, .tighter h => h.start
  | _, _, _, .binary hl _ _ => by
      obtain ⟨t, us, rfl, ht⟩ := hl.start
      exact ⟨t, _, rfl, ht⟩

/-- Arguments start with a parenthesis. -/
lemma DerivesArguments.start {ts : List Token} {args : List Expr}
    (h : DerivesArguments ts args) : ∃ t us, ts = t :: us ∧ t.kind = .lparen := by
  cases h with
  | none ho _ => exact ⟨_, _, rfl, ho⟩
  | some ho _ _ => exact ⟨_, _, rfl, ho⟩

/-- So does a list of expressions, which is never empty. -/
lemma DerivesItems.start {ts : List Token} {es : List Expr} (h : DerivesItems ts es) :
    ∃ t us, ts = t :: us ∧ t.kind ∈ starts := by
  cases h with
  | last h => exact h.start
  | more h _ _ =>
      obtain ⟨t, us, rfl, ht⟩ := h.start
      exact ⟨t, _, rfl, ht⟩

/-- A list of arguments is not empty. -/
lemma DerivesItems.clear_rparen {ts : List Token} {es : List Expr} (h : DerivesItems ts es)
    (rest : List Token) : Clear [.rparen] (ts ++ rest) := by
  obtain ⟨t, us, rfl, ht⟩ := h.start
  rw [List.cons_append, clear_cons]
  intro hk
  rw [List.mem_singleton.mp hk] at ht
  exact absurd ht (by decide)

/-- What does not start with a sign is no negation. -/
lemma parseUnary_of_ne {n : Nat} {t : Token} {ts : List Token} (ht : t.kind ≠ .minus) :
    parseUnary (n + 1) (t :: ts) = parsePrimary n (t :: ts) := by
  rw [parseUnary, bind_of_ok (next?_of_clear (clear_cons.mpr (by simpa using ht)))]

mutual

lemma Derives.opens : ∀ {levels : List (List Kind)} {ts : List Token} {e : Expr},
    Derives levels ts e → Graded levels → ∀ {n : Nat}, 16 * ts.length + levels.length < n →
      ∀ rest : List Token, Opens n ts rest e levels
  | _, _, _, .operand h, hg, n, hn, rest => by
      obtain ⟨n, rfl⟩ : ∃ k, n = k + 1 := ⟨n - 1, by omega⟩
      intro hrest
      rw [parseLevels]
      exact h.complete (by simp at hn; omega) hrest
  | _, _, _, .tighter h, hg, n, hn, rest => by
      obtain ⟨n, rfl⟩ : ∃ k, n = k + 1 := ⟨n - 1, by omega⟩
      intro hrest
      rw [List.length_cons] at hn
      have hfirst := (h.opens hg.tail (n := n) (by omega) rest).complete (by omega) hrest
      refine ⟨n, by omega, ?_⟩
      rw [parseLevels, bind_of_ok hfirst]
  | _, _, _, @Derives.binary ops levels ls rs op l r hl hop hr, hg, n, hn, rest => by
      obtain ⟨n, rfl⟩ : ∃ k, n = k + 1 := ⟨n - 1, by omega⟩
      intro hrest
      simp only [List.length_append, List.length_cons] at hn
      obtain ⟨m, hm, heq⟩ := hl.opens hg (n := n + 1) (by rw [List.length_cons]; omega)
        (op :: (rs ++ rest)) (hg.clear hop _)
      obtain ⟨m, rfl⟩ : ∃ k, m = k + 1 := ⟨m - 1, by omega⟩
      have hright := (hr.opens hg.tail (n := m) (by omega) rest).complete (by omega) hrest
      refine ⟨m, by simp only [List.length_append, List.length_cons]; omega, ?_⟩
      rw [List.append_assoc, List.cons_append, heq, parseChain_cons hop hright]

/-- An operand is read, if no parenthesis follows that would make a name a call. -/
lemma DerivesOperand.complete : ∀ {ts : List Token} {e : Expr}, DerivesOperand ts e →
    ∀ {n : Nat}, 16 * ts.length ≤ n + 12 → ∀ {rest : List Token}, Clear [.lparen] rest →
      parseUnary n (ts ++ rest) = .ok (e, rest)
  | _, _, .negate hop h, n, hn, rest, hrest => by
      rw [List.length_cons] at hn
      obtain ⟨n, rfl⟩ : ∃ k, n = k + 1 := ⟨n - 1, by omega⟩
      rw [List.cons_append, parseUnary, bind_of_ok (next?_cons (by simp [hop]))]
      exact bind_of_ok (h.complete (by omega) hrest)
  | _, _, .number ht, n, hn, rest, hrest => by
      rw [List.length_cons] at hn
      obtain ⟨n, rfl⟩ : ∃ k, n = k + 2 := ⟨n - 2, by omega⟩
      rw [List.cons_append, parseUnary_of_ne (by simp [ht]), parsePrimary,
        bind_of_ok (next?_cons (by simp [ht]))]
      simp only [ht]
      rfl
  | _, _, .string ht, n, hn, rest, hrest => by
      rw [List.length_cons] at hn
      obtain ⟨n, rfl⟩ : ∃ k, n = k + 2 := ⟨n - 2, by omega⟩
      rw [List.cons_append, parseUnary_of_ne (by simp [ht]), parsePrimary,
        bind_of_ok (next?_cons (by simp [ht]))]
      simp only [ht]
      rfl
  | _, _, .identifier ht, n, hn, rest, hrest => by
      rw [List.length_cons] at hn
      obtain ⟨n, rfl⟩ : ∃ k, n = k + 2 := ⟨n - 2, by omega⟩
      rw [List.cons_append, parseUnary_of_ne (by simp [ht]), parsePrimary,
        bind_of_ok (next?_cons (by simp [ht]))]
      simp only [ht]
      exact bind_of_ok (at?_of_clear hrest)
  | _, _, .call ht h, n, hn, rest, hrest => by
      rw [List.length_cons] at hn
      obtain ⟨n, rfl⟩ : ∃ k, n = k + 2 := ⟨n - 2, by omega⟩
      have hargs := h.complete (n := n) (by omega) rest
      obtain ⟨o, us, rfl, ho⟩ := h.start
      rw [List.cons_append, parseUnary_of_ne (by simp [ht]), parsePrimary,
        bind_of_ok (next?_cons (by simp [ht]))]
      simp only [ht, List.cons_append]
      rw [bind_of_ok at?_cons]
      simp only [ho, beq_self_eq_true, if_true]
      exact bind_of_ok hargs
  | _, _, @DerivesOperand.parens o c ts e ho h hc, n, hn, rest, hrest => by
      simp only [List.length_cons, List.length_append] at hn
      obtain ⟨n, rfl⟩ : ∃ k, n = k + 2 := ⟨n - 2, by omega⟩
      have hb : 16 * ts.length + 4 < n := by omega
      have hinner := (h.opens graded_levels hb (c :: rest)).closed hb (closing_of_rparen hc)
      rw [List.cons_append, parseUnary_of_ne (by simp [ho]), parsePrimary,
        bind_of_ok (next?_cons (by simp [ho]))]
      simp only [ho, List.append_assoc, List.singleton_append]
      rw [bind_of_ok hinner, bind_of_ok (expect_cons hc)]
      rfl

/-- Arguments are read, whatever follows. -/
lemma DerivesArguments.complete : ∀ {ts : List Token} {args : List Expr},
    DerivesArguments ts args → ∀ {n : Nat}, 16 * ts.length ≤ n → ∀ rest : List Token,
      parseArguments n (ts ++ rest) = .ok (args, rest)
  | _, _, .none ho hc, n, hn, rest => by
      rw [List.length_cons] at hn
      obtain ⟨n, rfl⟩ : ∃ k, n = k + 1 := ⟨n - 1, by omega⟩
      rw [parseArguments, List.cons_append, bind_of_ok (expect_cons ho), List.cons_append,
        bind_of_ok (next?_cons (by simp [hc]))]
      rfl
  | _, _, @DerivesArguments.some o c ts args ho h hc, n, hn, rest => by
      simp only [List.length_cons, List.length_append] at hn
      obtain ⟨n, rfl⟩ : ∃ k, n = k + 1 := ⟨n - 1, by omega⟩
      have hitems := h.complete (n := n) (by omega) hc rest
      rw [parseArguments, List.cons_append, List.append_assoc, bind_of_ok (expect_cons ho),
        bind_of_ok (next?_of_clear (h.clear_rparen _))]
      dsimp only [List.singleton_append]
      rw [bind_of_ok hitems, bind_of_ok (expect_cons hc)]
      rfl

/-- Expressions with commas between them are read up to the closing parenthesis. -/
lemma DerivesItems.complete : ∀ {ts : List Token} {es : List Expr}, DerivesItems ts es →
    ∀ {n : Nat}, 16 * ts.length + 6 ≤ n → ∀ {c : Token}, c.kind = .rparen → ∀ rest : List Token,
      parseCommaList n (ts ++ c :: rest) = .ok (es, c :: rest)
  | ts, _, .last h, n, hn, c, hc, rest => by
      obtain ⟨n, rfl⟩ : ∃ k, n = k + 1 := ⟨n - 1, by omega⟩
      have hb : 16 * ts.length + 4 < n := by omega
      have hone := (h.opens graded_levels hb (c :: rest)).closed hb (closing_of_rparen hc)
      rw [parseCommaList, bind_of_ok hone,
        bind_of_ok (next?_of_clear (clear_cons.mpr (by simp [hc])))]
      rfl
  | _, _, @DerivesItems.more ts ts' comma e es h hcomma hmore, n, hn, c, hc, rest => by
      simp only [List.length_cons, List.length_append] at hn
      obtain ⟨n, rfl⟩ : ∃ k, n = k + 1 := ⟨n - 1, by omega⟩
      have hb : 16 * ts.length + 4 < n := by omega
      have hone := (h.opens graded_levels hb (comma :: (ts' ++ c :: rest))).closed hb
        (closing_of_comma hcomma)
      rw [parseCommaList, List.append_assoc, List.cons_append, bind_of_ok hone,
        bind_of_ok (next?_cons (by simp [hcomma]))]
      exact bind_of_ok (hmore.complete (by omega) hc rest)

end

/-- **An expression that is derived is parsed**, up to the token that closes it. -/
lemma Derives.complete {ts : List Token} {e : Expr} (h : Derives levels ts e) {n : Nat}
    (hn : 16 * ts.length + 4 < n) {c : Token} (hc : c.kind ∈ closings) (rest : List Token) :
    parse n (ts ++ c :: rest) = .ok (e, c :: rest) :=
  (h.opens graded_levels hn (c :: rest)).closed hn hc

/-- A condition is read, whatever follows. -/
lemma DerivesCondition.complete {ts : List Token} {e : Expr} (h : DerivesCondition ts e) {n : Nat}
    (hn : 16 * ts.length ≤ n) (rest : List Token) :
    parseCondition n (ts ++ rest) = .ok (e, rest) := by
  cases h with
  | @mk o c ts e ho h hc =>
      simp only [List.length_cons, List.length_append] at hn
      have hinner := h.complete (n := n) (by omega) (closing_of_rparen hc) rest
      rw [parseCondition, List.cons_append, bind_of_ok (expect_cons ho), List.append_assoc,
        List.singleton_append, bind_of_ok hinner, bind_of_ok (expect_cons hc)]
      rfl

end Expr

/-! ### Parts of statements -/

/-- An assignment is read, whatever follows. -/
lemma Assignment.Derives.complete {head : Token} {declared : Bool} {ts : List Token}
    {a : Assignment} (h : Assignment.Derives head declared ts a) {n : Nat} (hn : 16 * ts.length ≤ n)
    (rest : List Token) : Assignment.parse n head declared (ts ++ rest) = .ok (a, rest) := by
  cases h with
  | @mk name eq semi ts e hname heq h hsemi =>
      simp only [List.length_cons, List.length_append] at hn
      have hvalue := h.complete (n := n) (by omega) (Expr.closing_of_semicolon hsemi) rest
      rw [Assignment.parse, List.cons_append, bind_of_ok (expect_cons hname), List.cons_append,
        bind_of_ok (expect_cons heq), List.append_assoc, List.singleton_append, bind_of_ok hvalue,
        bind_of_ok (expect_cons hsemi)]
      rfl

/-- Parameter names are read up to the closing parenthesis. -/
lemma DerivesNames.complete {ts : List Token} {names : List Text} (h : DerivesNames ts names)
    {n : Nat} (hn : ts.length ≤ n) {c : Token} (hc : c.kind = .rparen) (rest : List Token) :
    parseNames n (ts ++ c :: rest) = .ok (names, c :: rest) := by
  induction h generalizing n with
  | last ht =>
      obtain ⟨n, rfl⟩ : ∃ k, n = k + 1 := ⟨n - 1, by rw [List.length_singleton] at hn; omega⟩
      rw [parseNames, List.cons_append, bind_of_ok (expect_cons ht), List.nil_append,
        bind_of_ok (next?_of_clear (clear_cons.mpr (by simp [hc])))]
      rfl
  | more ht hcomma _ ih =>
      simp only [List.length_cons] at hn
      obtain ⟨n, rfl⟩ : ∃ k, n = k + 1 := ⟨n - 1, by omega⟩
      rw [parseNames, List.cons_append, bind_of_ok (expect_cons ht), List.cons_append,
        bind_of_ok (next?_cons (by simp [hcomma]))]
      exact bind_of_ok (ih (by omega))

/-- Parameter names do not start with the closing parenthesis: there is at least one. -/
lemma DerivesNames.clear_rparen {ts : List Token} {names : List Text} (h : DerivesNames ts names)
    (rest : List Token) : Clear [.rparen] (ts ++ rest) := by
  cases h with
  | last ht => exact clear_cons.mpr (by simp [ht])
  | more ht _ _ => exact clear_cons.mpr (by simp [ht])

lemma DerivesParams.complete {ts : List Token} {names : List Text} (h : DerivesParams ts names)
    {n : Nat} (hn : ts.length ≤ n) (rest : List Token) :
    parseParams n (ts ++ rest) = .ok (names, rest) := by
  cases h with
  | none ho hc =>
      rw [parseParams, List.cons_append, bind_of_ok (expect_cons ho), List.cons_append,
        bind_of_ok (next?_cons (by simp [hc]))]
      rfl
  | @some o c ts names ho h hc =>
      simp only [List.length_cons, List.length_append] at hn
      rw [parseParams, List.cons_append, bind_of_ok (expect_cons ho), List.append_assoc,
        bind_of_ok (next?_of_clear (h.clear_rparen _))]
      dsimp only [List.singleton_append]
      rw [bind_of_ok (h.complete (by omega) hc rest), bind_of_ok (expect_cons hc)]
      rfl

/-- The last semicolon of a loop head may be there or not. -/
lemma DerivesSemicolon.complete {ts : List Token} (h : DerivesSemicolon ts) {c : Token}
    (hc : c.kind = .rparen) (rest : List Token) :
    ∃ o, next? [.semicolon] (ts ++ c :: rest) = .ok (o, c :: rest) := by
  cases h with
  | absent => exact ⟨none, next?_of_clear (clear_cons.mpr (by simp [hc]))⟩
  | present ht => exact ⟨_, next?_cons (by simp [ht])⟩

/-- The value that a loop counts on with is closed by its semicolon or, without one, by the
parenthesis. -/
lemma DerivesSemicolon.closing {ts : List Token} (h : DerivesSemicolon ts) {c : Token}
    (hc : c.kind = .rparen) (rest : List Token) :
    ∃ t us, ts ++ c :: rest = t :: us ∧ t.kind ∈ Expr.closings := by
  cases h with
  | absent => exact ⟨c, rest, rfl, Expr.closing_of_rparen hc⟩
  | present ht => exact ⟨_, _, rfl, Expr.closing_of_semicolon ht⟩

/-- The head of a counting loop is read, whatever follows. -/
lemma DerivesCount.complete {ts : List Token} {parts : Assignment × Expr × Assignment}
    (h : DerivesCount ts parts) {n : Nat} (hn : 16 * ts.length ≤ n) (rest : List Token) :
    parseCount n (ts ++ rest) = .ok (parts, rest) := by
  cases h with
  | @mk o head semi name eq c is cs vs ss init condition value ho hhead hinit hcondition hsemi hname
      heq hvalue hss hc =>
      simp only [List.length_cons, List.length_append] at hn
      obtain ⟨o', hsemi'⟩ := hss.complete hc rest
      obtain ⟨t, us, htu, ht⟩ := hss.closing hc rest
      have hcond := hcondition.complete (n := n) (by omega)
        (Expr.closing_of_semicolon hsemi) (name :: eq :: (vs ++ (ss ++ c :: rest)))
      have hval := hvalue.complete (n := n) (by omega) ht us
      rw [← htu] at hval
      simp only [List.cons_append, List.append_assoc, List.nil_append]
      rw [parseCount, bind_of_ok (expect_cons ho), bind_of_ok (expect_cons hhead),
        bind_of_ok (hinit.complete (by omega) _), bind_of_ok hcond, bind_of_ok (expect_cons hsemi),
        bind_of_ok (expect_cons hname), bind_of_ok (expect_cons heq), bind_of_ok hval,
        bind_of_ok hsemi', bind_of_ok (expect_cons hc)]
      rfl

/-! ### Statements -/

namespace Stmt

lemma Derives.start {ts : List Token} {s : Stmt} (h : Derives ts s) :
    ∃ t us, ts = t :: us ∧ t.kind ∈ heads := by
  cases h with
  | declare ht _ => exact ⟨_, _, rfl, by simp [heads, ht]⟩
  | assign h =>
      cases h with
      | mk ht _ _ _ => exact ⟨_, _, rfl, by simp [heads, ht]⟩
  | print ht _ _ => exact ⟨_, _, rfl, by simp [heads, ht]⟩
  | input ht _ _ => exact ⟨_, _, rfl, by simp [heads, ht]⟩
  | giveBack ht _ _ => exact ⟨_, _, rfl, by simp [heads, ht]⟩
  | call ht _ _ => exact ⟨_, _, rfl, by simp [heads, ht]⟩
  | choose ht _ _ _ => exact ⟨_, _, rfl, by simp [heads, ht]⟩
  | loop ht _ _ => exact ⟨_, _, rfl, by simp [heads, ht]⟩
  | count ht _ _ => exact ⟨_, _, rfl, by simp [heads, ht]⟩
  | function ht _ _ _ => exact ⟨_, _, rfl, by simp [heads, ht]⟩

/-- The kinds that close a sequence of statements. -/
def closings : List Kind := [.rbrace, .programEnd]

/-- Behind a statement stands another one or the token that closes the sequence, so that no if-chain
goes on there. -/
lemma DerivesMany.clear_else {ts : List Token} {body : List Stmt} (h : DerivesMany ts body)
    {c : Token} (hc : c.kind ∈ closings) (rest : List Token) :
    Clear [.elseIf, .elseWord] (ts ++ c :: rest) := by
  have key : ∀ k ∈ closings ++ heads, k ∉ [Kind.elseIf, Kind.elseWord] := by decide
  cases h with
  | none => exact clear_cons.mpr (key _ (List.mem_append_left _ hc))
  | more h _ =>
      obtain ⟨t, us, rfl, ht⟩ := h.start
      exact clear_cons.mpr (key _ (List.mem_append_right _ ht))

/-- A statement does not start with a token that closes the sequence. -/
lemma Derives.clear_closing {ts : List Token} {s : Stmt} (h : Derives ts s) {close : Kind}
    (hc : close ∈ closings) (rest : List Token) : Clear [close] (ts ++ rest) := by
  have key : ∀ k ∈ closings, k ∉ heads := by decide
  obtain ⟨t, us, rfl, ht⟩ := h.start
  refine clear_cons.mpr fun hk => key close hc ?_
  rwa [List.mem_singleton.mp hk] at ht

mutual

lemma Derives.complete : ∀ {ts : List Token} {s : Stmt}, Derives ts s → ∀ {n : Nat},
    16 * ts.length ≤ n → ∀ {rest : List Token}, Clear [.elseIf, .elseWord] rest →
      parse n (ts ++ rest) = .ok (s, rest)
  | _, _, .declare ht h, n, hn, rest, hrest => by
      rw [List.length_cons] at hn
      obtain ⟨n, rfl⟩ : ∃ k, n = k + 1 := ⟨n - 1, by omega⟩
      rw [parse, List.cons_append, bind_of_ok (next?_cons (by simp [heads, ht]))]
      simp only [ht]
      exact bind_of_ok (h.complete (by omega) rest)
  | _, _, .assign (.mk ht heq h hsemi), n, hn, rest, hrest => by
      simp only [List.length_cons, List.length_append] at hn
      obtain ⟨n, rfl⟩ : ∃ k, n = k + 1 := ⟨n - 1, by omega⟩
      have hvalue := h.complete (n := n) (by omega) (Expr.closing_of_semicolon hsemi) rest
      simp only [List.cons_append, List.append_assoc, List.nil_append]
      rw [parse, bind_of_ok (next?_cons (by simp [heads, ht]))]
      simp only [ht]
      rw [parseNamed, bind_of_ok at?_cons]
      simp only [heq, beq_self_eq_true, if_true]
      rw [bind_of_ok (expect_cons heq), bind_of_ok hvalue, bind_of_ok (expect_cons hsemi)]
      rfl
  | _, _, .print ht h hsemi, n, hn, rest, hrest => by
      simp only [List.length_cons, List.length_append] at hn
      obtain ⟨n, rfl⟩ : ∃ k, n = k + 1 := ⟨n - 1, by omega⟩
      have hvalue := h.complete (n := n) (by omega) (Expr.closing_of_semicolon hsemi) rest
      simp only [List.cons_append, List.append_assoc, List.nil_append]
      rw [parse, bind_of_ok (next?_cons (by simp [heads, ht]))]
      simp only [ht]
      rw [bind_of_ok hvalue, bind_of_ok (expect_cons hsemi)]
      rfl
  | _, _, .input ht hname hsemi, n, hn, rest, hrest => by
      simp only [List.length_cons] at hn
      obtain ⟨n, rfl⟩ : ∃ k, n = k + 1 := ⟨n - 1, by omega⟩
      simp only [List.cons_append, List.nil_append]
      rw [parse, bind_of_ok (next?_cons (by simp [heads, ht]))]
      simp only [ht]
      rw [bind_of_ok (expect_cons hname), bind_of_ok (expect_cons hsemi)]
      rfl
  | _, _, .giveBack ht h hsemi, n, hn, rest, hrest => by
      simp only [List.length_cons, List.length_append] at hn
      obtain ⟨n, rfl⟩ : ∃ k, n = k + 1 := ⟨n - 1, by omega⟩
      have hvalue := h.complete (n := n) (by omega) (Expr.closing_of_semicolon hsemi) rest
      simp only [List.cons_append, List.append_assoc, List.nil_append]
      rw [parse, bind_of_ok (next?_cons (by simp [heads, ht]))]
      simp only [ht]
      rw [bind_of_ok hvalue, bind_of_ok (expect_cons hsemi)]
      rfl
  | _, _, @Derives.call t semi ts args ht h hsemi, n, hn, rest, hrest => by
      simp only [List.length_cons, List.length_append] at hn
      obtain ⟨n, rfl⟩ : ∃ k, n = k + 1 := ⟨n - 1, by omega⟩
      have hargs := h.complete (n := n) (by omega) (semi :: rest)
      obtain ⟨o, us, rfl, ho⟩ := h.start
      simp only [List.cons_append, List.append_assoc, List.nil_append] at hargs ⊢
      rw [parse, bind_of_ok (next?_cons (by simp [heads, ht]))]
      simp only [ht]
      rw [parseNamed, bind_of_ok at?_cons]
      simp only [ho, reduceCtorEq, beq_iff_eq, if_false]
      rw [bind_of_ok at?_cons]
      simp only [ho, beq_self_eq_true, if_true]
      rw [bind_of_ok hargs, bind_of_ok (expect_cons hsemi)]
      rfl
  | _, _, @Derives.choose t cs bs ms condition body more ht hcondition hbody hmore, n, hn, rest,
      hrest => by
      simp only [List.length_cons, List.length_append] at hn
      obtain ⟨n, rfl⟩ : ∃ k, n = k + 1 := ⟨n - 1, by omega⟩
      simp only [List.cons_append, List.append_assoc]
      rw [parse, bind_of_ok (next?_cons (by simp [heads, ht]))]
      simp only [ht]
      rw [bind_of_ok (hcondition.complete (by omega) _),
        bind_of_ok (hbody.complete (by omega) _), bind_of_ok (hmore.complete (by omega) hrest)]
      rfl
  | _, _, @Derives.loop t cs bs condition body ht hcondition hbody, n, hn, rest, hrest => by
      simp only [List.length_cons, List.length_append] at hn
      obtain ⟨n, rfl⟩ : ∃ k, n = k + 1 := ⟨n - 1, by omega⟩
      simp only [List.cons_append, List.append_assoc]
      rw [parse, bind_of_ok (next?_cons (by simp [heads, ht]))]
      simp only [ht]
      rw [bind_of_ok (hcondition.complete (by omega) _),
        bind_of_ok (hbody.complete (by omega) _)]
      rfl
  | _, _, @Derives.count t cs bs init increment condition body ht hcount hbody, n, hn, rest,
      hrest => by
      simp only [List.length_cons, List.length_append] at hn
      obtain ⟨n, rfl⟩ : ∃ k, n = k + 1 := ⟨n - 1, by omega⟩
      simp only [List.cons_append, List.append_assoc]
      rw [parse, bind_of_ok (next?_cons (by simp [heads, ht]))]
      simp only [ht]
      rw [bind_of_ok (hcount.complete (by omega) _)]
      dsimp only
      rw [bind_of_ok (hbody.complete (by omega) _)]
      rfl
  | _, _, @Derives.function t name ps bs params body ht hname hparams hbody, n, hn, rest,
      hrest => by
      simp only [List.length_cons, List.length_append] at hn
      obtain ⟨n, rfl⟩ : ∃ k, n = k + 1 := ⟨n - 1, by omega⟩
      simp only [List.cons_append, List.append_assoc]
      rw [parse, bind_of_ok (next?_cons (by simp [heads, ht]))]
      simp only [ht]
      rw [bind_of_ok (expect_cons hname), bind_of_ok (hparams.complete (by omega) _),
        bind_of_ok (hbody.complete (by omega) _)]
      rfl

/-- A block is read, whatever follows. -/
lemma DerivesBlock.complete : ∀ {ts : List Token} {body : List Stmt}, DerivesBlock ts body →
    ∀ {n : Nat}, 16 * ts.length ≤ n → ∀ rest : List Token,
      parseBlock n (ts ++ rest) = .ok (body, rest)
  | _, _, @DerivesBlock.mk o c ts body ho h hc, n, hn, rest => by
      simp only [List.length_cons, List.length_append] at hn
      obtain ⟨n, rfl⟩ : ∃ k, n = k + 1 := ⟨n - 1, by omega⟩
      simp only [List.cons_append, List.append_assoc, List.nil_append]
      rw [parseBlock, bind_of_ok (expect_cons ho)]
      exact h.complete (by omega) (by simp [closings]) hc rest

/-- Statements are read up to the token that closes them. -/
lemma DerivesMany.complete : ∀ {ts : List Token} {body : List Stmt}, DerivesMany ts body →
    ∀ {n : Nat}, 16 * ts.length < n → ∀ {close : Kind}, close ∈ closings → ∀ {c : Token},
      c.kind = close → ∀ rest : List Token,
      parseUntil n close (ts ++ c :: rest) = .ok (body, rest)
  | _, _, .none, n, hn, close, hclose, c, hc, rest => by
      obtain ⟨n, rfl⟩ : ∃ k, n = k + 1 := ⟨n - 1, by omega⟩
      rw [parseUntil, List.nil_append, bind_of_ok (next?_cons (by simp [hc]))]
      rfl
  | _, _, @DerivesMany.more ts ts' s body h hmore, n, hn, close, hclose, c, hc, rest => by
      rw [List.length_append] at hn
      obtain ⟨n, rfl⟩ : ∃ k, n = k + 1 := ⟨n - 1, by omega⟩
      have hclear := h.clear_closing hclose (ts' ++ c :: rest)
      have hfirst := h.complete (n := n) (by omega) (hmore.clear_else (hc ▸ hclose) rest)
      obtain ⟨t, us, rfl, ht⟩ := h.start
      have hne : t.kind ≠ .eof := ne_of_mem_of_not_mem ht (by decide)
      rw [List.length_cons] at hn
      rw [List.append_assoc, parseUntil, bind_of_ok (next?_of_clear hclear)]
      dsimp only
      rw [List.cons_append, bind_of_ok (atEnd_of_ne hne _), if_neg (by simp), ← List.cons_append,
        bind_of_ok hfirst]
      exact bind_of_ok (hmore.complete (by omega) hclose hc rest)

lemma DerivesBranches.complete : ∀ {ts : List Token} {bs : List Branch}, DerivesBranches ts bs →
    ∀ {n : Nat}, 16 * ts.length ≤ n → ∀ {rest : List Token}, Clear [.elseIf, .elseWord] rest →
      parseBranches n (ts ++ rest) = .ok (bs, rest)
  | _, _, .none, n, hn, rest, hrest => by
      cases n with
      | zero => rfl
      | succ n =>
          rw [parseBranches, List.nil_append, bind_of_ok (next?_of_clear hrest)]
          rfl
  | _, _, .elseIf ht hcondition hbody hmore, n, hn, rest, hrest => by
      simp only [List.length_cons, List.length_append] at hn
      obtain ⟨n, rfl⟩ : ∃ k, n = k + 1 := ⟨n - 1, by omega⟩
      simp only [List.cons_append, List.append_assoc]
      rw [parseBranches, bind_of_ok (next?_cons (by simp [ht]))]
      simp only [ht, beq_self_eq_true, if_true]
      rw [bind_of_ok (hcondition.complete (by omega) _),
        bind_of_ok (hbody.complete (by omega) _), bind_of_ok (hmore.complete (by omega) hrest)]
      rfl
  | _, _, .otherwise ht hbody, n, hn, rest, hrest => by
      rw [List.length_cons] at hn
      obtain ⟨n, rfl⟩ : ∃ k, n = k + 1 := ⟨n - 1, by omega⟩
      rw [parseBranches, List.cons_append, bind_of_ok (next?_cons (by simp [ht]))]
      simp only [ht, reduceCtorEq, beq_iff_eq, if_false]
      exact bind_of_ok (hbody.complete (by omega) rest)

end

end Stmt

/-! ### Programs -/

namespace Program

lemma Derives.complete {ts : List Token} {p : Program} (h : Derives ts p) {n : Nat}
    (hn : budget ts.length ≤ n) : rule n ts = .ok (p, []) := by
  cases h with
  | @mk o c ts body ho h hc =>
      simp only [budget, List.length_cons, List.length_append] at hn
      have hbody := h.complete (n := n) (by omega) (show Kind.programEnd ∈ Stmt.closings by decide)
        hc []
      rw [rule, bind_of_ok (expect_cons ho), bind_of_ok hbody, bind_of_ok (atEnd_eq [])]
      rfl

/-- What stands in front of the end of input is no longer than the whole. -/
lemma length_significant_le (ts : List Token) : (significant ts).length ≤ ts.length :=
  (List.takeWhile_prefix _).length_le

lemma budget_mono {l l' : Nat} (h : l ≤ l') : budget l ≤ budget l' := by
  rw [budget, budget]
  omega

/-- **What the grammar derives is parsed.** -/
lemma parse_of_derives {ts : List Token} {p : Program} (h : Derives (significant ts) p) :
    parse ts = .ok p := by
  rw [parse_eq, h.complete (budget_mono (length_significant_le ts))]
  rfl

/-- So tokens have one tree at most. -/
lemma Derives.unique {ts : List Token} {p q : Program} (hp : Derives ts p) (hq : Derives ts q) :
    p = q := by
  have h := (hp.complete le_rfl).symm.trans (hq.complete le_rfl)
  exact (Prod.mk.inj (Except.ok.inj h)).1

/-- **The parser accepts exactly the grammar.** It returns a program on those lists of tokens
whose part in front of the end of input spells that program, and no list of tokens spells two
programs. -/
theorem parse_eq_ok_iff_derives :
    (∀ (ts : List Token) (p : Program), parse ts = .ok p ↔ Derives (significant ts) p)
      ∧ ∀ ts : List Token, {p | Derives ts p}.Subsingleton :=
  ⟨fun _ _ => ⟨derives_of_parse, parse_of_derives⟩, fun _ _ hp _ hq => hp.unique hq⟩

end Program

end LessonLang
