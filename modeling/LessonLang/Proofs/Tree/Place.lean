import Mathlib
import LessonLang.Proofs.Grammar.Cut
import LessonLang.Proofs.Token.Position

/-!
The places of the nodes of a tree.

* `TreeNode` is a node of a tree, of any kind, and `TreeNode.parts` lists the nodes right below one.
  `TreeNode.Within` reaches the nodes at every depth.
* `TreeNode.At n us t` says that the tokens `us` spell the node `n`, and that `t` is the one of them
  that gives the node its place.
* `TreeNode.Located ts n`: somewhere among the tokens `ts` stand those of `n`, and `n` has the place
  of the right one. A part of a located node is located (`TreeNode.Located.part`), so that all nodes
  of a derived program are (`Program.Derives.located`).
* `source_positions`: in every source text the tokens, the faults, the mismatches and the nodes of
  the tree have the places where they stand.
-/

namespace LessonLang

/-! ### Nodes -/

/-- The place of a statement. -/
def Stmt.span : Stmt → Span
  | .absent => none
  | .assign a => a.span
  | .print s _ | .input s _ | .choose s _ | .loop s .. | .count s .. | .function s .. | .call s ..
  | .giveBack s _ => s

/-- The place of a branch. -/
def Branch.span : Branch → Span
  | .absent => none
  | .mk s .. => s

/-- A node of a tree. An assignment is a node of its own in the head of a counting loop; elsewhere
it is a statement. -/
inductive TreeNode where
  | program (p : Program)
  | stmt (s : Stmt)
  | assignment (a : Assignment)
  | branch (b : Branch)
  | expr (e : Expr)

namespace TreeNode

/-- The place of a node. -/
def span : TreeNode → Span
  | program p => p.span
  | stmt s => s.span
  | assignment a => a.span
  | branch b => b.span
  | expr e => e.span

/-- The nodes right below a node. The condition of an else branch is none. -/
def parts : TreeNode → List TreeNode
  | program p => p.body.map stmt
  | stmt (.assign a) | assignment a => [expr a.value]
  | stmt (.print _ e) | stmt (.giveBack _ e) => [expr e]
  | stmt (.choose _ branches) => branches.map branch
  | stmt (.loop _ condition body) => expr condition :: body.map stmt
  | stmt (.count _ init condition increment body) =>
    init.toList.map assignment ++
      expr condition :: (increment.toList.map assignment ++ body.map stmt)
  | stmt (.function _ _ _ body) | branch (.mk _ .absent body) => body.map stmt
  | stmt (.call _ _ args) | expr (.call _ _ args) => args.map expr
  | branch (.mk _ condition body) => expr condition :: body.map stmt
  | expr (.binary _ _ l r) => [expr l, expr r]
  | _ => []

/-- **The nodes of a tree**, at every depth below its root. -/
def Within (root n : TreeNode) : Prop := Relation.ReflTransGen (fun m k => k ∈ m.parts) root n

/-! ### Places -/

/-- **The token that gives a node its place**, among the tokens that spell the node: the first one
of a program or a statement, the keyword of a branch, the operator of a binary operation, the minus
sign for both nodes of a negation, the name of a call, and a literal or an identifier itself. -/
inductive At : TreeNode → List Token → Token → Prop where
  | program {p : Program} {t : Token} {ts : List Token} (h : Program.Derives (t :: ts) p) :
      At (program p) (t :: ts) t
  | stmt {s : Stmt} {t : Token} {ts : List Token} (h : Stmt.Derives (t :: ts) s) :
      At (stmt s) (t :: ts) t
  | declaration {a : Assignment} {t : Token} {ts : List Token} (ht : t.kind = .declare)
      (h : Assignment.Derives t true ts a) : At (assignment a) (t :: ts) t
  | update {s : Span} {value : Expr} {t eq : Token} {ts : List Token} (ht : t.kind = .identifier)
      (heq : eq.kind = .assign) (h : Expr.Derives Expr.levels ts value) :
      At (assignment ⟨s, t.text, value, false⟩) (t :: eq :: ts) t
  | branch {s : Span} {condition : Expr} {body : List Stmt} {t : Token} {cs bs : List Token}
      (ht : t.kind = .ifWord ∨ t.kind = .elseIf) (hcondition : Expr.DerivesCondition cs condition)
      (hbody : Stmt.DerivesBlock bs body) : At (branch (.mk s condition body)) (t :: (cs ++ bs)) t
  | otherwise {s : Span} {body : List Stmt} {t : Token} {bs : List Token} (ht : t.kind = .elseWord)
      (hbody : Stmt.DerivesBlock bs body) : At (branch (.mk s .absent body)) (t :: bs) t
  | binary {s : Span} {l r : Expr} {op : Token} {ls rs : List Token} {ops : List Kind}
      {levels : List (List Kind)} (hl : Expr.Derives (ops :: levels) ls l) (hop : op.kind ∈ ops)
      (hr : Expr.Derives levels rs r) : At (expr (.binary s op.text l r)) (ls ++ op :: rs) op
  | negation {s : Span} {e : Expr} {op : Token} {ts : List Token} (hop : op.kind = .minus)
      (h : Expr.DerivesOperand ts e) :
      At (expr (.binary s (utf8 "-") (.number op.span 0) e)) (op :: ts) op
  | zero {s : Span} {op : Token} (hop : op.kind = .minus) : At (expr (.number s 0)) [op] op
  | number {s : Span} {t : Token} (ht : t.kind = .number) : At (expr (.number s t.number)) [t] t
  | string {s : Span} {t : Token} (ht : t.kind = .string) : At (expr (.string s t.text)) [t] t
  | identifier {s : Span} {t : Token} (ht : t.kind = .identifier) :
      At (expr (.identifier s t.text)) [t] t
  | call {s : Span} {args : List Expr} {t : Token} {ts : List Token} (ht : t.kind = .identifier)
      (h : Expr.DerivesArguments ts args) : At (expr (.call s t.text args)) (t :: ts) t

/-- **A located node**: its tokens stand together among the tokens `ts`, and it has the place of the
one that is to give it. -/
def Located (ts : List Token) (n : TreeNode) : Prop :=
  ∃ us t, us <:+: ts ∧ At n us t ∧ n.span = some ⟨t.pos.line, t.pos.column⟩

/-- What is located in a stretch of tokens is located in a longer one. -/
lemma Located.mono {us ts : List Token} {n : TreeNode} (h : Located us n) (hsub : us <:+: ts) :
    Located ts n := by
  obtain ⟨vs, t, hvs, hat, hspan⟩ := h
  exact ⟨vs, t, hvs.trans hsub, hat, hspan⟩

/-- What has its place from a token is located there. -/
lemma At.located {n : TreeNode} {ts : List Token} {t : Token} (h : At n ts t)
    (hspan : n.span = t.span) : Located ts n :=
  ⟨ts, t, List.infix_rfl, h, hspan⟩

end TreeNode

open TreeNode

/-! ### Expressions -/

namespace Expr

mutual

/-- **A derived expression is located** among its tokens: levels and parentheses around it are taken
off. -/
lemma Derives.located : ∀ {levels : List (List Kind)} {ts : List Token} {e : Expr},
    Derives levels ts e → Located ts (expr e)
  | _, _, _, .operand h => h.located
  | _, _, _, .tighter h => h.located
  | _, _, _, .binary hl hop hr => (At.binary hl hop hr).located rfl

/-- An operand is located among its tokens. -/
lemma DerivesOperand.located : ∀ {ts : List Token} {e : Expr},
    DerivesOperand ts e → Located ts (expr e)
  | _, _, .negate hop h => (At.negation hop h).located rfl
  | _, _, .number ht => (At.number ht).located rfl
  | _, _, .string ht => (At.string ht).located rfl
  | _, _, .identifier ht => (At.identifier ht).located rfl
  | _, _, .call ht h => (At.call ht h).located rfl
  | _, _, @DerivesOperand.parens o c _ _ _ h _ => h.located.mono ⟨[o], [c], rfl⟩

end

/-- So is each expression of a list. -/
lemma DerivesItems.located : ∀ {ts : List Token} {args : List Expr},
    DerivesItems ts args → ∀ e ∈ args, Located ts (expr e)
  | _, _, .last h => by simpa using h.located
  | _, _, @DerivesItems.more ts rest c _ _ h _ hmore => by
      intro e he
      obtain rfl | he := List.mem_cons.mp he
      · exact h.located.mono ⟨[], c :: rest, rfl⟩
      · exact (hmore.located e he).mono ⟨ts ++ [c], [], by simp⟩

lemma DerivesArguments.located {ts : List Token} {args : List Expr} (h : DerivesArguments ts args) :
    ∀ e ∈ args, Located ts (expr e) := by
  cases h with
  | none => simp
  | @some o c ts _ _ h _ => exact fun e he => (h.located e he).mono ⟨[o], [c], rfl⟩

lemma DerivesCondition.located {ts : List Token} {e : Expr} (h : DerivesCondition ts e) :
    Located ts (expr e) := by
  cases h with
  | @mk o c ts _ _ h _ => exact h.located.mono ⟨[o], [c], rfl⟩

end Expr

/-! ### Statements -/

lemma Assignment.Derives.located_value {head : Token} {declared : Bool} {ts : List Token}
    {a : Assignment} (h : Assignment.Derives head declared ts a) : Located ts (expr a.value) := by
  cases h with
  | @mk name eq semi ts e _ _ h _ => exact h.located.mono ⟨[name, eq], [semi], rfl⟩

/-- The three parts of the head of a counting loop. -/
lemma DerivesCount.located {ts : List Token} {init increment : Assignment} {condition : Expr}
    (h : DerivesCount ts (init, condition, increment)) :
    Located ts (assignment init) ∧ Located ts (expr condition)
      ∧ Located ts (assignment increment) := by
  cases h with
  | @mk o head semi name eq c is cs vs ss _ _ _ _ hhead hinit hcondition _ hname heq hvalue =>
      refine ⟨?_, ?_, ?_⟩
      · have hspan : init.span = head.span := by
          cases hinit
          rfl
        exact ((At.declaration hhead hinit).located hspan).mono
          ⟨[o], cs ++ semi :: name :: eq :: (vs ++ (ss ++ [c])), by simp⟩
      · exact hcondition.located.mono
          ⟨o :: head :: is, semi :: name :: eq :: (vs ++ (ss ++ [c])), by simp⟩
      · exact ((At.update hname heq hvalue).located rfl).mono
          ⟨o :: head :: (is ++ (cs ++ [semi])), ss ++ [c], by simp⟩

namespace Stmt

lemma Derives.located {ts : List Token} {s : Stmt} (h : Derives ts s) : Located ts (stmt s) := by
  cases h with
  | declare ht h =>
      have hat := At.stmt (Derives.declare ht h)
      cases h
      exact hat.located rfl
  | assign h =>
      have hat := At.stmt (Derives.assign h)
      cases h
      exact hat.located rfl
  | print ht h hsemi => exact (At.stmt (.print ht h hsemi)).located rfl
  | input ht hname hsemi => exact (At.stmt (.input ht hname hsemi)).located rfl
  | giveBack ht h hsemi => exact (At.stmt (.giveBack ht h hsemi)).located rfl
  | call ht h hsemi => exact (At.stmt (.call ht h hsemi)).located rfl
  | choose ht hcondition hbody hmore =>
      exact (At.stmt (.choose ht hcondition hbody hmore)).located rfl
  | loop ht hcondition hbody => exact (At.stmt (.loop ht hcondition hbody)).located rfl
  | count ht hcount hbody => exact (At.stmt (.count ht hcount hbody)).located rfl
  | function ht hname hparams hbody =>
      exact (At.stmt (.function ht hname hparams hbody)).located rfl

lemma DerivesMany.located : ∀ {ts : List Token} {body : List Stmt},
    DerivesMany ts body → ∀ s ∈ body, Located ts (stmt s)
  | _, _, .none => by simp
  | _, _, @DerivesMany.more ts rest _ _ h hmore => by
      intro s hs
      obtain rfl | hs := List.mem_cons.mp hs
      · exact h.located.mono ⟨[], rest, rfl⟩
      · exact (hmore.located s hs).mono ⟨ts, [], by simp⟩

lemma DerivesBlock.located {ts : List Token} {body : List Stmt} (h : DerivesBlock ts body) :
    ∀ s ∈ body, Located ts (stmt s) := by
  cases h with
  | @mk o c ts _ _ h _ => exact fun s hs => (h.located s hs).mono ⟨[o], [c], rfl⟩

lemma DerivesBranches.located : ∀ {ts : List Token} {branches : List Branch},
    DerivesBranches ts branches → ∀ b ∈ branches, Located ts (branch b)
  | _, _, .none => by simp
  | _, _, @DerivesBranches.elseIf t cs bs ms _ _ _ ht hcondition hbody hmore => by
      intro b hb
      obtain rfl | hb := List.mem_cons.mp hb
      · exact ((At.branch (Or.inr ht) hcondition hbody).located rfl).mono ⟨[], ms, by simp⟩
      · exact (hmore.located b hb).mono ⟨t :: (cs ++ bs), [], by simp⟩
  | _, _, .otherwise ht hbody => by
      intro b hb
      obtain rfl := List.mem_singleton.mp hb
      exact (At.otherwise ht hbody).located rfl

end Stmt

/-! ### Parts -/

/-- **The parts of a statement** are located among its tokens. -/
lemma Stmt.Derives.located_parts {ts : List Token} {s : Stmt} (h : Stmt.Derives ts s) :
    ∀ m ∈ (stmt s).parts, Located ts m := by
  intro m hm
  cases h with
  | @declare t ts a ht h =>
      obtain rfl := List.mem_singleton.mp hm
      exact h.located_value.mono ⟨[t], [], by simp⟩
  | assign h =>
      obtain rfl := List.mem_singleton.mp hm
      exact h.located_value
  | @print t semi ts e ht h hsemi =>
      obtain rfl := List.mem_singleton.mp hm
      exact h.located.mono ⟨[t], [semi], rfl⟩
  | input => exact absurd hm List.not_mem_nil
  | @giveBack t semi ts e ht h hsemi =>
      obtain rfl := List.mem_singleton.mp hm
      exact h.located.mono ⟨[t], [semi], rfl⟩
  | @call t semi ts args ht h hsemi =>
      obtain ⟨e, he, rfl⟩ := List.mem_map.mp hm
      exact (h.located e he).mono ⟨[t], [semi], rfl⟩
  | @choose t cs bs ms condition body more ht hcondition hbody hmore =>
      obtain ⟨b, hb, rfl⟩ := List.mem_map.mp hm
      obtain rfl | hb := List.mem_cons.mp hb
      · exact ((At.branch (Or.inl ht) hcondition hbody).located rfl).mono ⟨[], ms, by simp⟩
      · exact (hmore.located b hb).mono ⟨t :: (cs ++ bs), [], by simp⟩
  | @loop t cs bs condition body ht hcondition hbody =>
      obtain rfl | hm := List.mem_cons.mp hm
      · exact hcondition.located.mono ⟨[t], bs, by simp⟩
      · obtain ⟨s, hs, rfl⟩ := List.mem_map.mp hm
        exact (hbody.located s hs).mono ⟨t :: cs, [], by simp⟩
  | @count t cs bs init increment condition body ht hcount hbody =>
      obtain ⟨hinit, hcondition, hincrement⟩ := hcount.located
      have hsub : cs <:+: t :: (cs ++ bs) := ⟨[t], bs, by simp⟩
      simp only [parts, Option.toList_some, List.map_cons, List.map_nil, List.cons_append,
        List.nil_append, List.mem_cons, List.mem_map] at hm
      obtain rfl | rfl | rfl | ⟨s, hs, rfl⟩ := hm
      · exact hinit.mono hsub
      · exact hcondition.mono hsub
      · exact hincrement.mono hsub
      · exact (hbody.located s hs).mono ⟨t :: cs, [], by simp⟩
  | @function t name ps bs params body ht hname hparams hbody =>
      obtain ⟨s, hs, rfl⟩ := List.mem_map.mp hm
      exact (hbody.located s hs).mono ⟨t :: name :: ps, [], by simp⟩

/-- A branch with a condition, or without one. -/
lemma mem_parts_branch {s : Span} {condition : Expr} {body : List Stmt} {m : TreeNode}
    (hm : m ∈ (branch (.mk s condition body)).parts) :
    m = expr condition ∨ ∃ st ∈ body, m = stmt st := by
  cases condition with
  | absent =>
      obtain ⟨st, hst, rfl⟩ := List.mem_map.mp hm
      exact Or.inr ⟨st, hst, rfl⟩
  | _ =>
      obtain rfl | hm := List.mem_cons.mp hm
      · exact Or.inl rfl
      · obtain ⟨st, hst, rfl⟩ := List.mem_map.mp hm
        exact Or.inr ⟨st, hst, rfl⟩

namespace TreeNode

/-- The parts of a node are located among the tokens of the node. -/
lemma At.located_parts {n : TreeNode} {ts : List Token} {t : Token} (h : At n ts t) :
    ∀ m ∈ n.parts, Located ts m := by
  intro m hm
  cases h with
  | program h =>
      cases h with
      | @mk o c ts body _ h _ =>
          obtain ⟨s, hs, rfl⟩ := List.mem_map.mp hm
          exact (h.located s hs).mono ⟨[t], [c], rfl⟩
  | stmt h => exact h.located_parts m hm
  | declaration ht h =>
      obtain rfl := List.mem_singleton.mp hm
      exact h.located_value.mono ⟨[t], [], by simp⟩
  | @update s value _ eq ts _ _ h =>
      obtain rfl := List.mem_singleton.mp hm
      exact h.located.mono ⟨[t, eq], [], by simp⟩
  | @branch s condition body _ cs bs _ hcondition hbody =>
      obtain rfl | ⟨st, hst, rfl⟩ := mem_parts_branch hm
      · exact hcondition.located.mono ⟨[t], bs, by simp⟩
      · exact (hbody.located st hst).mono ⟨t :: cs, [], by simp⟩
  | otherwise _ hbody =>
      obtain ⟨st, hst, rfl⟩ := List.mem_map.mp hm
      exact (hbody.located st hst).mono ⟨[t], [], by simp⟩
  | @binary s l r _ ls rs _ _ hl _ hr =>
      obtain rfl | hm := List.mem_cons.mp hm
      · exact hl.located.mono ⟨[], t :: rs, rfl⟩
      · obtain rfl := List.mem_singleton.mp hm
        exact hr.located.mono ⟨ls ++ [t], [], by simp⟩
  | @negation s e _ ts hop h =>
      obtain rfl | hm := List.mem_cons.mp hm
      · exact ((At.zero hop).located rfl).mono ⟨[], ts, rfl⟩
      · obtain rfl := List.mem_singleton.mp hm
        exact h.located.mono ⟨[t], [], by simp⟩
  | zero => exact absurd hm List.not_mem_nil
  | number => exact absurd hm List.not_mem_nil
  | string => exact absurd hm List.not_mem_nil
  | identifier => exact absurd hm List.not_mem_nil
  | call _ h =>
      obtain ⟨e, he, rfl⟩ := List.mem_map.mp hm
      exact (h.located e he).mono ⟨[t], [], by simp⟩

/-- **A part of a located node is located.** -/
lemma Located.part {n m : TreeNode} {ts : List Token} (h : Located ts n) (hm : m ∈ n.parts) :
    Located ts m := by
  obtain ⟨us, t, hus, hat, -⟩ := h
  exact (hat.located_parts m hm).mono hus

/-- **All nodes of a tree** are located if its root is. -/
lemma Located.within {root n : TreeNode} {ts : List Token} (h : Located ts root)
    (hn : Within root n) : Located ts n := by
  induction hn with
  | refl => exact h
  | tail _ hm ih => exact ih.part hm

end TreeNode

lemma Program.Derives.located {ts : List Token} {p : Program} (h : Program.Derives ts p) :
    Located ts (program p) := by
  cases h with
  | mk ho h hc => exact (At.program (.mk ho h hc)).located rfl

/-! ### Source texts -/

/-- A source text ends in an end of input. -/
lemma exists_eof_of_tokenize {src : Text} {ts : List Token} (h : tokenize src = .ok ts) :
    ∃ t ∈ ts, t.kind = .eof := by
  have htiles := tokenizeFrom_tiles src (show Pos.start.offset = (0 : Nat) from rfl)
  rw [← tokenize, h] at htiles
  obtain ⟨us, e, rfl, hkind, -⟩ := htiles.last_eof
  exact ⟨e, by simp, hkind⟩

/-- **Every position is the true one.** The tokens of a source text, and a fault in it, stand at
true positions. A parse error has the position of the token that it reports, which is one of them.
Every node of the tree, at every depth, has the line and the column of the token that is to give it
its place. -/
theorem source_positions (src : Text) :
    (match tokenize src with
      | .ok ts => ∀ t ∈ ts, t.pos.IsTrue src
      | .error e => e.pos.IsTrue src ∧ e.Stands src)
    ∧ match Program.ofSource src with
      | .ok p => ∃ ts, tokenize src = .ok ts ∧ ∀ n, Within (program p) n → Located ts n
      | .error (.parse e) => ∃ ts, tokenize src = .ok ts ∧ e.found ∈ ts ∧ e.pos = e.found.pos
      | .error (.lex e) => tokenize src = .error e := by
  refine ⟨tokenizeFrom_isTrue [] src, ?_⟩
  rw [Program.ofSource]
  cases hts : tokenize src with
  | error e => rfl
  | ok ts =>
      dsimp only
      cases hp : Program.parse ts with
      | error e =>
          obtain ⟨hfound, hpos⟩ := Program.found_of_parse hp
          refine ⟨ts, rfl, ?_, hpos⟩
          obtain hfound | hfound := hfound
          · exact hfound
          · rw [hfound]
            exact Program.endToken_mem (exists_eof_of_tokenize hts)
      | ok p =>
          refine ⟨ts, rfl, fun n hn => ?_⟩
          have hsub : Program.significant ts <:+: ts := (List.takeWhile_prefix _).isInfix
          exact ((Program.derives_of_parse hp).located.within hn).mono hsub

/-- A source text with a negation. -/
def negationSource : Text := utf8 "nomoshkar dada\n bolo dada x + -y;\njachchhi dada"

/-- Its tree. Both nodes of the negation stand at the minus sign. -/
def negationProgram : Program :=
  ⟨some ⟨1, 1⟩, [.print (some ⟨2, 2⟩) (.binary (some ⟨2, 14⟩) (utf8 "+")
    (.identifier (some ⟨2, 12⟩) (utf8 "x"))
    (.binary (some ⟨2, 16⟩) (utf8 "-") (.number (some ⟨2, 16⟩) 0)
      (.identifier (some ⟨2, 17⟩) (utf8 "y"))))]⟩

/-- The zero of the negation is a node of the tree, and located. -/
theorem source_positions_negation :
    Program.ofSource negationSource = .ok negationProgram
    ∧ Within (program negationProgram) (expr (.number (some ⟨2, 16⟩) 0))
    ∧ ∃ ts, tokenize negationSource = .ok ts ∧ Located ts (expr (.number (some ⟨2, 16⟩) 0)) := by
  have hp : Program.ofSource negationSource = .ok negationProgram := by cbv
  have hwithin : Within (program negationProgram) (expr (.number (some ⟨2, 16⟩) 0)) := by
    refine .head List.mem_cons_self (.head List.mem_cons_self ?_)
    exact .head (List.mem_cons_of_mem _ List.mem_cons_self) (.single List.mem_cons_self)
  have h := (source_positions negationSource).2
  rw [hp] at h
  obtain ⟨ts, hts, hlocated⟩ := h
  exact ⟨hp, hwithin, ts, hts, hlocated _ hwithin⟩

end LessonLang
