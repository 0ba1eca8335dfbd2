import LessonLang.Tree.Parse

/-!
The grammar of programs.

Every relation here reads "these tokens, all of them and in this order, spell this tree". The
relations know nothing of lookahead, of budgets or of the order in which rules are tried, so that
they can be held against the parser.

* `Expr.Derives levels` is the grammar of expressions over the given levels of binary operators:
  every level is left recursive, and below the last one stand operands (`Expr.DerivesOperand`).
* `Stmt.Derives` has one constructor for each form of statement; `Stmt.DerivesBlock`,
  `Stmt.DerivesMany` and `Stmt.DerivesBranches` are the blocks, the sequences of statements and
  the ends of if-chains in them.
* `Program.Derives` is a sequence of statements between the opening and the closing phrase.
* `Program.significant` are the tokens that can spell a program, and `Program.endToken` is the end of
  input behind them.
-/

namespace LessonLang

/-! ### Expressions -/

namespace Expr

mutual

/-- **Binary operations**: an operator of a level stands between an expression of the same level
on its left and one of the tighter levels on its right. -/
inductive Derives : List (List Kind) → List Token → Expr → Prop where
  | operand {ts : List Token} {e : Expr} (h : DerivesOperand ts e) : Derives [] ts e
  | tighter {ops : List Kind} {levels : List (List Kind)} {ts : List Token} {e : Expr}
      (h : Derives levels ts e) : Derives (ops :: levels) ts e
  | binary {ops : List Kind} {levels : List (List Kind)} {ls rs : List Token} {op : Token}
      {l r : Expr} (hl : Derives (ops :: levels) ls l) (hop : op.kind ∈ ops)
      (hr : Derives levels rs r) :
      Derives (ops :: levels) (ls ++ op :: rs) (.binary op.span op.text l r)

/-- **Operands**: negations, literals, identifiers, calls and expressions in parentheses. A negation
is the difference of zero and its operand. -/
inductive DerivesOperand : List Token → Expr → Prop where
  | negate {op : Token} {ts : List Token} {e : Expr} (hop : op.kind = .minus)
      (h : DerivesOperand ts e) :
      DerivesOperand (op :: ts) (.binary op.span (utf8 "-") (.number op.span 0) e)
  | number {t : Token} (ht : t.kind = .number) : DerivesOperand [t] (.number t.span t.number)
  | string {t : Token} (ht : t.kind = .string) : DerivesOperand [t] (.string t.span t.text)
  | identifier {t : Token} (ht : t.kind = .identifier) :
      DerivesOperand [t] (.identifier t.span t.text)
  | call {t : Token} {ts : List Token} {args : List Expr} (ht : t.kind = .identifier)
      (h : DerivesArguments ts args) : DerivesOperand (t :: ts) (.call t.span t.text args)
  | parens {o c : Token} {ts : List Token} {e : Expr} (ho : o.kind = .lparen)
      (h : Derives levels ts e) (hc : c.kind = .rparen) : DerivesOperand (o :: (ts ++ [c])) e

/-- **Arguments** of a call, in parentheses. -/
inductive DerivesArguments : List Token → List Expr → Prop where
  | none {o c : Token} (ho : o.kind = .lparen) (hc : c.kind = .rparen) : DerivesArguments [o, c] []
  | some {o c : Token} {ts : List Token} {args : List Expr} (ho : o.kind = .lparen)
      (h : DerivesItems ts args) (hc : c.kind = .rparen) : DerivesArguments (o :: (ts ++ [c])) args

/-- One or more expressions with commas between them. -/
inductive DerivesItems : List Token → List Expr → Prop where
  | last {ts : List Token} {e : Expr} (h : Derives levels ts e) : DerivesItems ts [e]
  | more {ts rest : List Token} {c : Token} {e : Expr} {es : List Expr} (h : Derives levels ts e)
      (hc : c.kind = .comma) (hmore : DerivesItems rest es) :
      DerivesItems (ts ++ c :: rest) (e :: es)

end

/-- An expression in parentheses, as conditions are written. -/
inductive DerivesCondition : List Token → Expr → Prop where
  | mk {o c : Token} {ts : List Token} {e : Expr} (ho : o.kind = .lparen)
      (h : Derives levels ts e) (hc : c.kind = .rparen) : DerivesCondition (o :: (ts ++ [c])) e

end Expr

/-! ### Parts of statements -/

/-- **An assignment** with its semicolon. The place of `head` is given to it. -/
inductive Assignment.Derives (head : Token) (declared : Bool) : List Token → Assignment → Prop where
  | mk {name eq semi : Token} {ts : List Token} {e : Expr} (hname : name.kind = .identifier)
      (heq : eq.kind = .assign) (h : Expr.Derives Expr.levels ts e)
      (hsemi : semi.kind = .semicolon) :
      Derives head declared (name :: eq :: (ts ++ [semi])) ⟨head.span, name.text, e, declared⟩

/-- One or more names with commas between them. -/
inductive DerivesNames : List Token → List Text → Prop where
  | last {t : Token} (ht : t.kind = .identifier) : DerivesNames [t] [t.text]
  | more {t c : Token} {ts : List Token} {names : List Text} (ht : t.kind = .identifier)
      (hc : c.kind = .comma) (h : DerivesNames ts names) :
      DerivesNames (t :: c :: ts) (t.text :: names)

/-- **Parameters** of a function, in parentheses. -/
inductive DerivesParams : List Token → List Text → Prop where
  | none {o c : Token} (ho : o.kind = .lparen) (hc : c.kind = .rparen) : DerivesParams [o, c] []
  | some {o c : Token} {ts : List Token} {names : List Text} (ho : o.kind = .lparen)
      (h : DerivesNames ts names) (hc : c.kind = .rparen) : DerivesParams (o :: (ts ++ [c])) names

/-- A semicolon that may be left out. -/
inductive DerivesSemicolon : List Token → Prop where
  | absent : DerivesSemicolon []
  | present {t : Token} (ht : t.kind = .semicolon) : DerivesSemicolon [t]

/-- **The head of a counting loop**: a declaration, a condition and an assignment, in parentheses.
-/
inductive DerivesCount : List Token → Assignment × Expr × Assignment → Prop where
  | mk {o head semi name eq c : Token} {is cs vs ss : List Token} {init : Assignment}
      {condition value : Expr} (ho : o.kind = .lparen) (hhead : head.kind = .declare)
      (hinit : Assignment.Derives head true is init)
      (hcondition : Expr.Derives Expr.levels cs condition) (hsemi : semi.kind = .semicolon)
      (hname : name.kind = .identifier) (heq : eq.kind = .assign)
      (hvalue : Expr.Derives Expr.levels vs value) (hss : DerivesSemicolon ss)
      (hc : c.kind = .rparen) :
      DerivesCount (o :: head :: (is ++ (cs ++ semi :: name :: eq :: (vs ++ (ss ++ [c])))))
        (init, condition, ⟨name.span, name.text, value, false⟩)

/-! ### Statements -/

namespace Stmt

mutual

/-- **Statements.** -/
inductive Derives : List Token → Stmt → Prop where
  | declare {t : Token} {ts : List Token} {a : Assignment} (ht : t.kind = .declare)
      (h : Assignment.Derives t true ts a) : Derives (t :: ts) (.assign a)
  | assign {t : Token} {ts : List Token} {a : Assignment}
      (h : Assignment.Derives t false (t :: ts) a) : Derives (t :: ts) (.assign a)
  | print {t semi : Token} {ts : List Token} {e : Expr} (ht : t.kind = .print)
      (h : Expr.Derives Expr.levels ts e) (hsemi : semi.kind = .semicolon) :
      Derives (t :: (ts ++ [semi])) (.print t.span e)
  | input {t name semi : Token} (ht : t.kind = .input) (hname : name.kind = .identifier)
      (hsemi : semi.kind = .semicolon) : Derives [t, name, semi] (.input t.span name.text)
  | giveBack {t semi : Token} {ts : List Token} {e : Expr} (ht : t.kind = .returnWord)
      (h : Expr.Derives Expr.levels ts e) (hsemi : semi.kind = .semicolon) :
      Derives (t :: (ts ++ [semi])) (.giveBack t.span e)
  | call {t semi : Token} {ts : List Token} {args : List Expr} (ht : t.kind = .identifier)
      (h : Expr.DerivesArguments ts args) (hsemi : semi.kind = .semicolon) :
      Derives (t :: (ts ++ [semi])) (.call t.span t.text args)
  | choose {t : Token} {cs bs ms : List Token} {condition : Expr} {body : List Stmt}
      {more : List Branch} (ht : t.kind = .ifWord) (hcondition : Expr.DerivesCondition cs condition)
      (hbody : DerivesBlock bs body) (hmore : DerivesBranches ms more) :
      Derives (t :: (cs ++ (bs ++ ms))) (.choose t.span (.mk t.span condition body :: more))
  | loop {t : Token} {cs bs : List Token} {condition : Expr} {body : List Stmt}
      (ht : t.kind = .whileWord) (hcondition : Expr.DerivesCondition cs condition)
      (hbody : DerivesBlock bs body) : Derives (t :: (cs ++ bs)) (.loop t.span condition body)
  | count {t : Token} {cs bs : List Token} {init increment : Assignment} {condition : Expr}
      {body : List Stmt} (ht : t.kind = .forWord)
      (hcount : DerivesCount cs (init, condition, increment)) (hbody : DerivesBlock bs body) :
      Derives (t :: (cs ++ bs)) (.count t.span (some init) condition (some increment) body)
  | function {t name : Token} {ps bs : List Token} {params : List Text} {body : List Stmt}
      (ht : t.kind = .function) (hname : name.kind = .identifier)
      (hparams : DerivesParams ps params) (hbody : DerivesBlock bs body) :
      Derives (t :: name :: (ps ++ bs)) (.function t.span name.text params body)

/-- **Blocks**: statements in braces. -/
inductive DerivesBlock : List Token → List Stmt → Prop where
  | mk {o c : Token} {ts : List Token} {body : List Stmt} (ho : o.kind = .lbrace)
      (h : DerivesMany ts body) (hc : c.kind = .rbrace) : DerivesBlock (o :: (ts ++ [c])) body

/-- Any number of statements. -/
inductive DerivesMany : List Token → List Stmt → Prop where
  | none : DerivesMany [] []
  | more {ts rest : List Token} {s : Stmt} {body : List Stmt} (h : Derives ts s)
      (hmore : DerivesMany rest body) : DerivesMany (ts ++ rest) (s :: body)

/-- **Branches** behind the first one of an if-chain: any number with a condition, and then at
most one without. -/
inductive DerivesBranches : List Token → List Branch → Prop where
  | none : DerivesBranches [] []
  | elseIf {t : Token} {cs bs ms : List Token} {condition : Expr} {body : List Stmt}
      {more : List Branch} (ht : t.kind = .elseIf) (hcondition : Expr.DerivesCondition cs condition)
      (hbody : DerivesBlock bs body) (hmore : DerivesBranches ms more) :
      DerivesBranches (t :: (cs ++ (bs ++ ms))) (.mk t.span condition body :: more)
  | otherwise {t : Token} {bs : List Token} {body : List Stmt} (ht : t.kind = .elseWord)
      (hbody : DerivesBlock bs body) : DerivesBranches (t :: bs) [.mk t.span .absent body]

end

end Stmt

/-- **Programs**: statements between the opening and the closing phrase. -/
inductive Program.Derives : List Token → Program → Prop where
  | mk {o c : Token} {ts : List Token} {body : List Stmt} (ho : o.kind = .programStart)
      (h : Stmt.DerivesMany ts body) (hc : c.kind = .programEnd) :
      Derives (o :: (ts ++ [c])) ⟨o.span, body⟩

namespace Program

/-- The tokens in front of the first end of input. -/
def significant (ts : List Token) : List Token := ts.takeWhile fun t => t.kind != .eof

/-- The end of input that the parser sees: the first one in the list, or one at the place of the last
token. -/
def endToken (ts : List Token) : Token :=
  match ts.find? fun t => t.kind == .eof with
  | some t => t
  | none => Token.eof ((ts.getLast?.map Token.pos).getD Pos.unset)

end Program

end LessonLang
