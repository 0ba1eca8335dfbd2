import LessonLang.Proofs.Grammar.Rule

/-!
The rules are honest: they read nothing but the grammar, and give up as early as they can.

* `Rule.Viable D us`: the tokens `us` can be completed to something in the language `D`.
* `Rule.Honest x D`: the rule `x` yields nothing but `D`, gives up only behind tokens that can be
  completed, asks there for a kind that can follow, reads no end of input, and decides by what it has
  read and the next token alone, if that is no end of input. A sequence of honest rules is honest
  (`Rule.Honest.bind`): where the first one gives up, the second one has something to complete it
  with.
* `Expr.honest`, `Stmt.honest`: all rules are honest, whatever their budget. Even a rule without
  budget is: it gives up in front of tokens that it could have gone on with.
* `Program.derives_of_rule`, `Program.blames_of_rule`: so what the rule for programs reads is derived
  by the grammar, and what it has read where it gives up can be completed.
-/

namespace LessonLang

/-- A kind that tokens of programs have: neither the end of input nor a kind without a name. -/
def Kind.isSpelled : Kind → Bool
  | .eof | .other _ => false
  | _ => true

lemma Kind.ne_eof_of_isSpelled {k : Kind} (hk : k.isSpelled = true) : k ≠ .eof := by
  rintro rfl
  exact absurd hk (by decide)

/-- Some token of a given kind. -/
def Token.ofKind (k : Kind) : Token := ⟨k, [], 0, .unset⟩

@[simp] lemma Token.ofKind_kind (k : Kind) : (Token.ofKind k).kind = k := rfl

namespace Rule

variable {α β : Type}

/-! ### What can be completed -/

/-- **The tokens `us` can be completed** to something in the language `D`. -/
def Viable (D : List Token → α → Prop) (us : List Token) : Prop :=
  ∃ vs a, Inner vs ∧ D (us ++ vs) a

/-- What is complete can be completed, by nothing. -/
lemma viable_of {D : List Token → α → Prop} {us : List Token} {a : α} (h : D us a) :
    Viable D us :=
  ⟨[], a, inner_nil, by rwa [List.append_nil]⟩

/-- What was completed in part can be completed as a whole. -/
lemma Viable.bind {P : List Token → α → Prop} {Q : List Token → β → Prop} {us : List Token}
    (h : Viable P us) (hf : ∀ us a, P us a → Viable (fun vs b => Q (us ++ vs) b) []) :
    Viable Q us := by
  obtain ⟨vs, a, hvs, ha⟩ := h
  obtain ⟨ws, b, hws, hb⟩ := hf _ a ha
  exact ⟨vs ++ ws, b, inner_append.mpr ⟨hvs, hws⟩, by rwa [← List.append_assoc]⟩

/-- The front part of what can be completed can be completed. -/
lemma Viable.of_append {D : List Token → α → Prop} {us vs : List Token} (h : Viable D (us ++ vs))
    (hvs : Inner vs) : Viable D us := by
  obtain ⟨ws, a, hws, ha⟩ := h
  exact ⟨vs ++ ws, a, inner_append.mpr ⟨hvs, hws⟩, by rwa [← List.append_assoc]⟩

/-- What can be completed behind other tokens can be completed together with them. -/
lemma Viable.append {Q : List Token → α → Prop} {us vs : List Token}
    (h : Viable (fun ws a => Q (us ++ ws) a) vs) : Viable Q (us ++ vs) := by
  obtain ⟨ws, a, hws, ha⟩ := h
  exact ⟨ws, a, hws, by rwa [List.append_assoc]⟩

/-! ### Honest rules -/

/-- **What a rule gives up with** is in order: it has read the tokens `us`, they can be completed,
and so can they together with any token of the kind that is asked for. -/
def Blames (D : List Token → α → Prop) (us : List Token) (f : Mismatch) : Prop :=
  Viable D us ∧ ∀ k, f.expected = .kind k →
    k.isSpelled = true ∧ ∀ t : Token, t.kind = k → Viable D (us ++ [t])

/-- **The rule `x` is honest** about the language `D`. -/
structure Honest (x : Rule α) (D : List Token → α → Prop) : Prop where
  /-- what it reads belongs to the language -/
  yields : Yields x D
  /-- the language is not empty -/
  live : Viable D []
  /-- it gives up only behind tokens that can be completed -/
  blames : ∀ ts f, x ts = .error f → ∃ us, ts = us ++ f.rest ∧ Inner us ∧ Blames D us f
  /-- of the tokens that it leaves it looks at the first one only, and not beyond an end of input -/
  looks : ∀ us r r', sees r = sees r' →
    (∀ a, x (us ++ r) = .ok (a, r) → x (us ++ r') = .ok (a, r'))
      ∧ ∀ e d, x (us ++ r) = .error ⟨e, d, r⟩ → x (us ++ r') = .error ⟨e, d, r'⟩

/-- A sequence of two rules fails where the first one does, or the second one on what it left. -/
lemma bind_error {x : Rule α} {f : α → Rule β} {ts : List Token} {e : Mismatch} :
    (x >>= f) ts = .error e
      ↔ x ts = .error e ∨ ∃ a mid, x ts = .ok (a, mid) ∧ f a mid = .error e := by
  show (x ts >>= fun r => f r.1 r.2) = _ ↔ _
  cases hx : x ts with
  | error e' => simp [bind, Except.bind]
  | ok r => simp [bind, Except.bind, Prod.ext_iff]

/-- A sequence gives up where its first rule does. -/
lemma bind_of_error {x : Rule α} {f : α → Rule β} {ts : List Token} {e : Mismatch}
    (h : x ts = .error e) : (x >>= f) ts = .error e :=
  bind_error.mpr (Or.inl h)

/-- Of tokens that an honest rule leaves, those behind the next one can be exchanged. -/
lemma Honest.looks_ok {x : Rule α} {D : List Token → α → Prop} (hx : Honest x D)
    {us vs r r' : List Token} {a : α} (hvs : Inner vs) (hr : sees r = sees r')
    (h : x (us ++ r) = .ok (a, vs ++ r)) : x (us ++ r') = .ok (a, vs ++ r') := by
  obtain ⟨ws, hws, -⟩ := hx.yields _ a _ h
  rw [← List.append_assoc] at hws
  obtain rfl := List.append_cancel_right hws
  rw [List.append_assoc] at h ⊢
  exact (hx.looks ws _ _ (sees_append hvs hr)).1 a h

/-- Where an honest rule gives up, the tokens behind the next one can be exchanged. -/
lemma Honest.looks_error {x : Rule α} {D : List Token → α → Prop} (hx : Honest x D)
    {us vs r r' : List Token} {e : Expected} {d : Detail} (hvs : Inner vs) (hr : sees r = sees r')
    (h : x (us ++ r) = .error ⟨e, d, vs ++ r⟩) : x (us ++ r') = .error ⟨e, d, vs ++ r'⟩ := by
  obtain ⟨ws, hws, -⟩ := hx.blames _ _ h
  rw [← List.append_assoc] at hws
  obtain rfl := List.append_cancel_right hws
  rw [List.append_assoc] at h ⊢
  exact (hx.looks ws _ _ (sees_append hvs hr)).2 e d h

/-- **A sequence of honest rules** is honest. -/
lemma Honest.bind {x : Rule α} {f : α → Rule β} {P : List Token → α → Prop}
    {Q : List Token → β → Prop} (hx : Honest x P)
    (hf : ∀ us a, P us a → Honest (f a) fun vs b => Q (us ++ vs) b) : Honest (x >>= f) Q where
  yields := hx.yields.bind fun us a h => (hf us a h).yields
  live := hx.live.bind fun us a h => (hf us a h).live
  blames := by
    intro ts e hseq
    obtain he | ⟨a, mid, ha, he⟩ := bind_error.mp hseq
    · obtain ⟨us, hts, hus, hviable, hkind⟩ := hx.blames ts e he
      refine ⟨us, hts, hus, hviable.bind fun us a h => (hf us a h).live, fun k hk => ?_⟩
      obtain ⟨hne, hnext⟩ := hkind k hk
      exact ⟨hne, fun t ht => (hnext t ht).bind fun us a h => (hf us a h).live⟩
    · obtain ⟨us, rfl, hus, hP⟩ := hx.yields ts a mid ha
      obtain ⟨vs, rfl, hvs, hviable, hkind⟩ := (hf us a hP).blames mid e he
      refine ⟨us ++ vs, (List.append_assoc ..).symm, inner_append.mpr ⟨hus, hvs⟩, hviable.append,
        fun k hk => ?_⟩
      obtain ⟨hne, hnext⟩ := hkind k hk
      refine ⟨hne, fun t ht => ?_⟩
      rw [List.append_assoc]
      exact (hnext t ht).append
  looks := by
    intro us r r' hr
    -- what the first rule leaves is `vs ++ r`, so it looks at the first token of `vs` or of `r`
    constructor
    · intro b hb
      obtain ⟨a, mid, ha, hb⟩ := bind_ok.mp hb
      obtain ⟨ws, -, -, hws⟩ := hx.yields _ a _ ha
      obtain ⟨vs, rfl, hvs, -⟩ := (hf ws a hws).yields mid b r hb
      rw [bind_of_ok (hx.looks_ok hvs hr ha)]
      exact ((hf ws a hws).looks vs r r' hr).1 b hb
    · intro e d he
      obtain he | ⟨a, mid, ha, he⟩ := bind_error.mp he
      · exact bind_of_error ((hx.looks us r r' hr).2 e d he)
      · obtain ⟨ws, -, -, hws⟩ := hx.yields _ a _ ha
        obtain ⟨vs, rfl, hvs, -⟩ := (hf ws a hws).blames mid _ he
        rw [bind_of_ok (hx.looks_ok hvs hr ha)]
        exact ((hf ws a hws).looks vs r r' hr).2 e d he

/-- What can be completed in a language can be completed in a larger one. -/
lemma Viable.imp {P Q : List Token → α → Prop} {us : List Token} (h : Viable P us)
    (hPQ : ∀ us a, P us a → Q us a) : Viable Q us :=
  h.bind fun us a ha => viable_of (by rw [List.append_nil]; exact hPQ us a ha)

/-- A rule that is honest for a language is so for a larger one. -/
lemma Honest.imp {x : Rule α} {P Q : List Token → α → Prop} (hx : Honest x P)
    (h : ∀ us a, P us a → Q us a) : Honest x Q where
  yields := hx.yields.imp h
  live := hx.live.imp h
  blames := by
    intro ts f hf
    obtain ⟨us, hts, hus, hviable, hkind⟩ := hx.blames ts f hf
    exact ⟨us, hts, hus, hviable.imp h, fun k hk =>
      ⟨(hkind k hk).1, fun t ht => ((hkind k hk).2 t ht).imp h⟩⟩
  looks := hx.looks

/-! ### Single tokens -/

/-- A rule that never gives up is honest if what it reads is. -/
lemma honest_of_ne_error {x : Rule α} {D : List Token → α → Prop} (hx : ∀ ts f, x ts ≠ .error f)
    (yields : Yields x D) (live : Viable D [])
    (looks : ∀ us r r' a, sees r = sees r' → x (us ++ r) = .ok (a, r) → x (us ++ r') = .ok (a, r')) :
    Honest x D where
  yields := yields
  live := live
  blames := fun ts f hf => absurd hf (hx ts f)
  looks := fun us r r' hr =>
    ⟨fun a ha => looks us r r' a hr ha, fun _ _ he => absurd he (hx _ _)⟩

/-- A rule that reads nothing is honest if nothing is in the language. -/
lemma honest_pure {a : α} {Q : List Token → α → Prop} (h : Q [] a) : Honest (pure a) Q := by
  have hok : ∀ ts f, (pure a : Rule α) ts ≠ .error f := fun ts f hf =>
    absurd (show Except.ok (a, ts) = .error f from hf) (by simp)
  refine honest_of_ne_error hok (yields_pure h) (viable_of h) fun us r r' b _ hb => ?_
  obtain ⟨rfl, hr⟩ := pure_ok.mp hb
  obtain rfl := List.append_left_eq_self.mp hr.symm
  rfl

/-- **Looking at the next token** and no further reads nothing and is honest. -/
lemma honest_look {x : Rule α} {g : Option Token → α} (hx : ∀ ts, x ts = .ok (g (sees ts), ts)) :
    Honest x fun us _ => us = [] := by
  have hyields : Yields x fun us _ => us = [] := by
    intro ts a rest h
    rw [hx] at h
    obtain ⟨-, rfl⟩ := Prod.mk.inj (Except.ok.inj h)
    exact ⟨[], rfl, inner_nil, rfl⟩
  refine honest_of_ne_error (by simp [hx]) hyields (viable_of (a := g none) rfl) ?_
  intro us r r' a hr h
  rw [hx] at h
  obtain ⟨rfl, hts⟩ := Prod.mk.inj (Except.ok.inj h)
  obtain rfl := List.append_left_eq_self.mp hts
  rw [hx, List.nil_append, List.nil_append, hr]

/-- Giving up is honest where something could have followed. -/
lemma honest_fail {e : Expected} {d : Detail} {Q : List Token → α → Prop} (hlive : Viable Q [])
    (hkind : ∀ k, e = .kind k → k.isSpelled = true ∧ ∀ t : Token, t.kind = k → Viable Q [t]) :
    Honest (fail e d) Q where
  yields := yields_fail
  live := hlive
  blames := by
    rintro ts f hf
    obtain rfl := Except.error.inj hf
    exact ⟨[], rfl, inner_nil, hlive, hkind⟩
  looks := by
    intro us r r' _
    constructor
    · intro b hb
      exact absurd hb fail_ok
    · intro e' d' he
      obtain ⟨rfl, rfl, hr⟩ := Mismatch.mk.inj (Except.error.inj he)
      obtain rfl := List.append_left_eq_self.mp hr
      rfl

/-- Giving up without naming a kind. -/
lemma honest_fail_rule {e : Expected} {d : Detail} {Q : List Token → α → Prop}
    (hlive : Viable Q []) (he : ∀ k, e ≠ .kind k) : Honest (fail e d) Q :=
  honest_fail hlive fun k hk => absurd hk (he k)

/-- Any kind that tokens of programs have stands for some token. -/
lemma viable_token {k : Kind} (hk : k.isSpelled = true) :
    Viable (fun us (t : Token) => us = [t] ∧ t.kind = k) [] :=
  ⟨[.ofKind k], .ofKind k, by simpa using k.ne_eof_of_isSpelled hk, rfl, rfl⟩

/-- To ask for a token of a kind is honest, if tokens of programs have that kind. -/
lemma honest_expect (k : Kind) (hk : k.isSpelled = true) :
    Honest (expect k) fun us t => us = [t] ∧ t.kind = k where
  yields := yields_expect (Kind.ne_eof_of_isSpelled hk)
  live := viable_token hk
  blames := by
    intro ts f hf
    obtain ⟨rfl, -⟩ := expect_error.mp hf
    refine ⟨[], rfl, inner_nil, viable_token hk, ?_⟩
    intro k' hk'
    obtain rfl := Expected.kind.inj hk'
    exact ⟨hk, fun t ht => viable_of ⟨rfl, ht⟩⟩
  looks := by
    intro us r r' hr
    constructor
    · intro t hread
      obtain ⟨hts, ht⟩ := expect_ok.mp hread
      obtain rfl : us = [t] := List.append_cancel_right (show us ++ r = [t] ++ r from hts)
      exact expect_cons ht
    · intro e d he
      obtain ⟨hf, hclear⟩ := expect_error.mp he
      obtain ⟨rfl, rfl, hrest⟩ := Mismatch.mk.inj hf
      obtain rfl := List.append_left_eq_self.mp hrest.symm
      have hne : Kind.eof ∉ [k] := by simpa using (Kind.ne_eof_of_isSpelled hk).symm
      exact expect_error.mpr ⟨rfl, clear_congr hne hr hclear⟩

/-- To read a token if it is of certain kinds is honest, unless an end of input is among them. -/
lemma honest_next? (ks : List Kind) (hks : .eof ∉ ks) :
    Honest (next? ks) fun us o =>
      (∃ t, o = some t ∧ us = [t] ∧ t.kind ∈ ks) ∨ (o = none ∧ us = []) := by
  have hok : ∀ ts f, next? ks ts ≠ .error f := by
    intro ts f
    cases ts with
    | nil => simp [next?]
    | cons t ts =>
        rw [next?]
        split_ifs <;> simp
  refine honest_of_ne_error hok (yields_next? hks) (viable_of (Or.inr ⟨rfl, rfl⟩)) ?_
  intro us r r' o hr ho
  rcases next?_ok.mp ho with ⟨t, rfl, hts, ht⟩ | ⟨rfl, hts, hclear⟩
  · obtain rfl : us = [t] := List.append_cancel_right (show us ++ r = [t] ++ r from hts)
    exact next?_cons ht
  · obtain rfl := List.append_left_eq_self.mp hts
    exact next?_of_clear (clear_congr hks hr hclear)

/-- A look at the next token is honest. -/
lemma honest_at? (k : Kind) (hk : k ≠ .eof) : Honest (at? k) fun us _ => us = [] :=
  honest_look (at?_eq hk)

lemma honest_atEnd : Honest atEnd fun us _ => us = [] := honest_look atEnd_eq

end Rule

open Rule

/-! ### Expressions -/

namespace Expr

/-- There are operands, and so there are expressions of all levels. -/
lemma viable_levels : ∀ ops : List (List Kind), Viable (Derives ops) []
  | [] => ⟨[.ofKind .number], _, by simp, .operand (.number rfl)⟩
  | _ :: tighter => (viable_levels tighter).imp fun _ _ h => .tighter h

/-- There is an operand. -/
lemma viable_operand : Viable DerivesOperand [] :=
  ⟨[.ofKind .number], _, by simp, .number rfl⟩

/-- There are arguments. -/
lemma viable_arguments : Viable DerivesArguments [] :=
  ⟨[.ofKind .lparen, .ofKind .rparen], _, by simp, .none rfl rfl⟩

/-- There are expressions with commas between them. -/
lemma viable_items : Viable DerivesItems [] :=
  (viable_levels levels).bind fun us e h => viable_of (by rw [List.append_nil]; exact .last h)

/-- The rules for expressions are honest within a budget. -/
structure Honest (n : Nat) : Prop where
  levels {ops : List (List Kind)} (hops : .eof ∉ ops.flatten) :
    (parseLevels n ops).Honest (Derives ops)
  chain {ops : List Kind} {tighter : List (List Kind)} {left : Expr} {ls : List Token}
    (hops : .eof ∉ (ops :: tighter).flatten) (hl : Derives (ops :: tighter) ls left) :
    (parseChain n ops tighter left).Honest fun us => Derives (ops :: tighter) (ls ++ us)
  operand : (parseUnary n).Honest DerivesOperand
  primary : (parsePrimary n).Honest DerivesOperand
  arguments : (parseArguments n).Honest DerivesArguments
  items : (parseCommaList n).Honest DerivesItems

variable {n : Nat}

lemma eof_notMem_levels : Kind.eof ∉ levels.flatten := by decide

/-- Binary operators are read honestly, if operands are with less budget. -/
lemma Honest.levels_succ (h : Honest n) {ops : List (List Kind)} (hops : .eof ∉ ops.flatten) :
    (parseLevels (n + 1) ops).Honest (Derives ops) := by
  cases ops with
  | nil => exact h.operand.imp fun us e he => .operand he
  | cons ops tighter =>
      refine (h.levels fun ht => hops (List.mem_append_right _ ht)).bind fun ls l hl => ?_
      exact h.chain hops (.tighter hl)

/-- The operators behind a left operand are read honestly: together with that operand they are
derived at their level. -/
lemma Honest.chain_succ (h : Honest n) {ops : List Kind} {tighter : List (List Kind)}
    {left : Expr} {ls : List Token} (hops : .eof ∉ (ops :: tighter).flatten)
    (hl : Derives (ops :: tighter) ls left) :
    (parseChain (n + 1) ops tighter left).Honest
      fun us => Derives (ops :: tighter) (ls ++ us) := by
  obtain ⟨hown, htighter⟩ : Kind.eof ∉ ops ∧ Kind.eof ∉ tighter.flatten := by
    rwa [List.flatten_cons, List.mem_append, not_or] at hops
  refine (honest_next? ops hown).bind fun us o ho => ?_
  rcases ho with ⟨op, rfl, rfl, hop⟩ | ⟨rfl, rfl⟩
  · refine (h.levels htighter).bind fun rs r hr => ?_
    simpa using h.chain hops (.binary hl hop hr)
  · exact honest_pure (by simpa using hl)

/-- Negations are read honestly. -/
lemma Honest.operand_succ (h : Honest n) : (parseUnary (n + 1)).Honest DerivesOperand := by
  refine (honest_next? [.minus] (by decide)).bind fun us o ho => ?_
  rcases ho with ⟨op, rfl, rfl, hop⟩ | ⟨rfl, rfl⟩
  · refine h.operand.bind fun us e he => honest_pure ?_
    simpa using DerivesOperand.negate (by simpa using hop) he
  · exact h.primary

/-- Literals, names, calls and expressions in parentheses are read honestly. -/
lemma Honest.primary_succ (h : Honest n) : (parsePrimary (n + 1)).Honest DerivesOperand := by
  refine (honest_next? _ (by decide)).bind fun us o ho => ?_
  rcases ho with ⟨t, rfl, rfl, ht⟩ | ⟨rfl, rfl⟩
  · simp only [List.mem_cons, List.not_mem_nil, or_false] at ht
    rcases ht with ht | ht | ht | ht <;> simp only [ht]
    · exact honest_pure (.number ht)
    · exact honest_pure (.string ht)
    · refine (honest_at? .lparen nofun).bind fun us b hus => ?_
      subst hus
      split
      · refine h.arguments.bind fun us args hargs => honest_pure ?_
        simpa using DerivesOperand.call ht hargs
      · exact honest_pure (.identifier ht)
    · refine (h.levels eof_notMem_levels).bind fun us e he => ?_
      refine (honest_expect .rparen rfl).bind fun _ c ⟨hc, hck⟩ => honest_pure ?_
      subst hc
      simpa using DerivesOperand.parens ht he hck
  · exact honest_fail_rule viable_operand nofun

lemma Honest.arguments_succ (h : Honest n) :
    (parseArguments (n + 1)).Honest DerivesArguments := by
  refine (honest_expect .lparen rfl).bind fun _ o ⟨ho, hok⟩ => ?_
  subst ho
  refine (honest_next? [.rparen] (by decide)).bind fun us c hc => ?_
  rcases hc with ⟨c, rfl, rfl, hck⟩ | ⟨rfl, rfl⟩
  · exact honest_pure (.none hok (by simpa using hck))
  · refine h.items.bind fun us args hargs => ?_
    refine (honest_expect .rparen rfl).bind fun _ c ⟨hc, hck⟩ => honest_pure ?_
    subst hc
    simpa using DerivesArguments.some hok hargs hck

lemma Honest.items_succ (h : Honest n) : (parseCommaList (n + 1)).Honest DerivesItems := by
  refine (h.levels eof_notMem_levels).bind fun us e he => ?_
  refine (honest_next? [.comma] (by decide)).bind fun vs c hc => ?_
  rcases hc with ⟨c, rfl, rfl, hck⟩ | ⟨rfl, rfl⟩
  · refine h.items.bind fun vs es hes => honest_pure ?_
    simpa using DerivesItems.more he (by simpa using hck) hes
  · exact honest_pure (by simpa using DerivesItems.last he)

/-- **The rules for expressions are honest.** -/
lemma honest : ∀ n, Honest n
  | 0 => ⟨fun {ops} _ => honest_fail_rule (viable_levels ops) nofun,
      fun {_ _ _ ls} _ hl => honest_fail_rule (viable_of (by rw [List.append_nil]; exact hl)) nofun,
      honest_fail_rule viable_operand nofun, honest_fail_rule viable_operand nofun,
      honest_fail_rule viable_arguments nofun, honest_fail_rule viable_items nofun⟩
  | n + 1 =>
      have h := honest n
      ⟨h.levels_succ, h.chain_succ, h.operand_succ, h.primary_succ, h.arguments_succ, h.items_succ⟩

/-- **The rule for expressions** is honest. -/
lemma honest_parse (n : Nat) : (parse n).Honest (Derives levels) := 
  (honest n).levels eof_notMem_levels

lemma honest_parseCondition (n : Nat) : (parseCondition n).Honest DerivesCondition := by
  refine (honest_expect .lparen rfl).bind fun _ o ⟨ho, hok⟩ => ?_
  refine (honest_parse n).bind fun us e he => ?_
  refine (honest_expect .rparen rfl).bind fun _ c ⟨hc, hck⟩ => honest_pure ?_
  subst ho hc
  simpa using DerivesCondition.mk hok he hck

end Expr

/-! ### Parts of statements -/

/-- The rule for assignments is honest. -/
lemma Assignment.honest_parse (n : Nat) (head : Token) (declared : Bool) :
    (Assignment.parse n head declared).Honest (Assignment.Derives head declared) := by
  refine (honest_expect .identifier rfl).bind fun _ name ⟨hname, hnk⟩ => ?_
  refine (honest_expect .assign rfl).bind fun _ eq ⟨heq, hek⟩ => ?_
  refine (Expr.honest_parse n).bind fun us e he => ?_
  refine (honest_expect .semicolon rfl).bind fun _ semi ⟨hsemi, hsk⟩ => honest_pure ?_
  subst hname heq hsemi
  simpa using (Derives.mk hnk hek he hsk : Derives head declared _ _)

lemma honest_parseNames : ∀ n, (parseNames n).Honest DerivesNames
  | 0 => by
      have hlast : ∀ t : Token, t.kind = .identifier → Viable DerivesNames [t] :=
        fun t ht => viable_of (.last ht)
      refine honest_fail ⟨[.ofKind .identifier], _, by simp, .last rfl⟩ fun k hk => ?_
      obtain rfl := Expected.kind.inj hk
      exact ⟨rfl, hlast⟩
  | n + 1 => by
      refine (honest_expect .identifier rfl).bind fun _ t ⟨ht, htk⟩ => ?_
      subst ht
      refine (honest_next? [.comma] (by decide)).bind fun us c hc => ?_
      rcases hc with ⟨c, rfl, rfl, hck⟩ | ⟨rfl, rfl⟩
      · refine (honest_parseNames n).bind fun us names hnames => honest_pure ?_
        simpa using DerivesNames.more htk (by simpa using hck) hnames
      · exact honest_pure (.last htk)

lemma honest_parseParams (n : Nat) : (parseParams n).Honest DerivesParams := by
  refine (honest_expect .lparen rfl).bind fun _ o ⟨ho, hok⟩ => ?_
  subst ho
  refine (honest_next? [.rparen] (by decide)).bind fun us c hc => ?_
  rcases hc with ⟨c, rfl, rfl, hck⟩ | ⟨rfl, rfl⟩
  · exact honest_pure (.none hok (by simpa using hck))
  · refine (honest_parseNames n).bind fun us names hnames => ?_
    refine (honest_expect .rparen rfl).bind fun _ c ⟨hc, hck⟩ => honest_pure ?_
    subst hc
    simpa using DerivesParams.some hok hnames hck

lemma honest_semicolon :
    (next? [.semicolon]).Honest fun us _ => DerivesSemicolon us := by
  refine (honest_next? [.semicolon] (by decide)).imp fun us o ho => ?_
  rcases ho with ⟨t, rfl, rfl, ht⟩ | ⟨rfl, rfl⟩
  · exact .present (by simpa using ht)
  · exact .absent

/-- The rule for the head of a counting loop is honest. -/
lemma honest_parseCount (n : Nat) : (parseCount n).Honest DerivesCount := by
  refine (honest_expect .lparen rfl).bind fun _ o ⟨ho, hok⟩ => ?_
  refine (honest_expect .declare rfl).bind fun _ head ⟨hhead, hhk⟩ => ?_
  refine (Assignment.honest_parse n head true).bind fun is init hinit => ?_
  refine (Expr.honest_parse n).bind fun cs condition hcondition => ?_
  refine (honest_expect .semicolon rfl).bind fun _ semi ⟨hsemi, hsk⟩ => ?_
  refine (honest_expect .identifier rfl).bind fun _ name ⟨hname, hnk⟩ => ?_
  refine (honest_expect .assign rfl).bind fun _ eq ⟨heq, hek⟩ => ?_
  refine (Expr.honest_parse n).bind fun vs value hvalue => ?_
  refine honest_semicolon.bind fun ss _ hss => ?_
  refine (honest_expect .rparen rfl).bind fun _ c ⟨hc, hck⟩ => honest_pure ?_
  subst ho hhead hsemi hname heq hc
  simpa using DerivesCount.mk hok hhk hinit hcondition hsk hnk hek hvalue hss hck

/-! ### Statements -/

namespace Stmt

/-- What is read up to a closing token: statements and that token. -/
def DerivesUntil (close : Kind) (us : List Token) (body : List Stmt) : Prop :=
  ∃ (ts : List Token) (c : Token), us = ts ++ [c] ∧ c.kind = close ∧ DerivesMany ts body

/-- There is a statement. -/
lemma viable_statement : Viable Derives [] :=
  ⟨[.ofKind .input, .ofKind .identifier, .ofKind .semicolon], _, by simp, .input rfl rfl rfl⟩

/-- A closing token can come at once. -/
lemma derivesUntil_nil {close : Kind} {c : Token} (hc : c.kind = close) :
    DerivesUntil close [c] [] :=
  ⟨[], c, rfl, hc, .none⟩

/-- Statements can end at once, before the token that closes them. -/
lemma viable_until {close : Kind} (hclose : close.isSpelled = true) :
    Viable (DerivesUntil close) [] :=
  ⟨[.ofKind close], [], by simpa using Kind.ne_eof_of_isSpelled hclose, derivesUntil_nil rfl⟩

/-- Giving up for want of the closing token is honest. -/
lemma honest_fail_until {close : Kind} (hclose : close.isSpelled = true) :
    (fail (.kind close) : Rule (List Stmt)).Honest (DerivesUntil close) := by
  refine honest_fail (viable_until hclose) fun k hk => ?_
  obtain rfl := Expected.kind.inj hk
  exact ⟨hclose, fun t ht => viable_of (derivesUntil_nil ht)⟩

/-- The rules for statements are honest within a budget. -/
structure Honest (n : Nat) : Prop where
  statement : (parse n).Honest Derives
  block : (parseBlock n).Honest DerivesBlock
  many {close : Kind} (hclose : close.isSpelled = true) :
    (parseUntil n close).Honest (DerivesUntil close)
  branches : (parseBranches n).Honest DerivesBranches

variable {n : Nat}

/-- The rule for what begins with a name is honest, together with that name. -/
lemma honest_parseNamed (n : Nat) {t : Token} (ht : t.kind = .identifier) :
    (parseNamed n t).Honest fun us => Derives (t :: us) := by
  refine (honest_at? .assign nofun).bind fun us b hus => ?_
  subst hus
  split
  · refine (honest_expect .assign rfl).bind fun _ eq ⟨heq, hek⟩ => ?_
    refine (Expr.honest_parse n).bind fun us e he => ?_
    refine (honest_expect .semicolon rfl).bind fun _ semi ⟨hsemi, hsk⟩ => honest_pure ?_
    subst heq hsemi
    simpa using Derives.assign (.mk ht hek he hsk)
  · refine (honest_at? .lparen nofun).bind fun us b hus => ?_
    subst hus
    split
    · refine ((Expr.honest n).arguments).bind fun us args hargs => ?_
      refine (honest_expect .semicolon rfl).bind fun _ semi ⟨hsemi, hsk⟩ => honest_pure ?_
      subst hsemi
      simpa using Derives.call ht hargs hsk
    · refine honest_fail_rule (Expr.viable_arguments.bind fun us args hargs => ?_) nofun
      refine ⟨[.ofKind .semicolon], .call t.span t.text args, by simp, ?_⟩
      exact .call ht hargs rfl

/-- Statements are read honestly, if blocks, branches and expressions are with less budget. -/
lemma Honest.statement_succ (h : Honest n) : (parse (n + 1)).Honest Derives := by
  refine (honest_next? heads (by decide)).bind fun us o ho => ?_
  rcases ho with ⟨t, rfl, rfl, ht⟩ | ⟨rfl, rfl⟩
  · simp only [heads, List.mem_cons, List.not_mem_nil, or_false] at ht
    rcases ht with ht | ht | ht | ht | ht | ht | ht | ht | ht <;> simp only [ht]
    · refine (Assignment.honest_parse n t true).bind fun us a ha => honest_pure ?_
      simpa using Derives.declare ht ha
    · refine (Expr.honest_parse n).bind fun us e he => ?_
      refine (honest_expect .semicolon rfl).bind fun _ semi ⟨hsemi, hsk⟩ => honest_pure ?_
      subst hsemi
      simpa using Derives.print ht he hsk
    · refine (honest_expect .identifier rfl).bind fun _ name ⟨hname, hnk⟩ => ?_
      refine (honest_expect .semicolon rfl).bind fun _ semi ⟨hsemi, hsk⟩ => honest_pure ?_
      subst hname hsemi
      exact .input ht hnk hsk
    · refine (Expr.honest_parseCondition n).bind fun cs condition hcondition => ?_
      refine h.block.bind fun bs body hbody => ?_
      refine h.branches.bind fun ms more hmore => honest_pure ?_
      simpa using Derives.choose ht hcondition hbody hmore
    · refine (Expr.honest_parseCondition n).bind fun cs condition hcondition => ?_
      refine h.block.bind fun bs body hbody => honest_pure ?_
      simpa using Derives.loop ht hcondition hbody
    · refine (honest_parseCount n).bind fun cs ⟨init, condition, increment⟩ hcount => ?_
      refine h.block.bind fun bs body hbody => honest_pure ?_
      simpa using Derives.count ht hcount hbody
    · refine (honest_expect .identifier rfl).bind fun _ name ⟨hname, hnk⟩ => ?_
      refine (honest_parseParams n).bind fun ps params hparams => ?_
      refine h.block.bind fun bs body hbody => honest_pure ?_
      subst hname
      simpa using Derives.function ht hnk hparams hbody
    · refine (Expr.honest_parse n).bind fun us e he => ?_
      refine (honest_expect .semicolon rfl).bind fun _ semi ⟨hsemi, hsk⟩ => honest_pure ?_
      subst hsemi
      simpa using Derives.giveBack ht he hsk
    · exact honest_parseNamed n ht
  · refine (honest_at? .elseIf nofun).bind fun us b hus => ?_
    refine (honest_at? .elseWord nofun).bind fun vs b hvs => ?_
    subst hus hvs
    split <;> exact honest_fail_rule viable_statement nofun

lemma Honest.block_succ (h : Honest n) : (parseBlock (n + 1)).Honest DerivesBlock := by
  refine (honest_expect .lbrace rfl).bind fun _ o ⟨ho, hok⟩ => ?_
  subst ho
  refine (h.many (show Kind.rbrace.isSpelled = true from rfl)).imp fun us body hus => ?_
  obtain ⟨ts, c, rfl, hck, hts⟩ := hus
  exact .mk hok hts hck

lemma Honest.many_succ (h : Honest n) {close : Kind} (hclose : close.isSpelled = true) :
    (parseUntil (n + 1) close).Honest (DerivesUntil close) := by
  have hne : Kind.eof ∉ [close] := by simpa using (Kind.ne_eof_of_isSpelled hclose).symm
  refine (honest_next? [close] hne).bind fun us o ho => ?_
  rcases ho with ⟨c, rfl, rfl, hc⟩ | ⟨rfl, rfl⟩
  · exact honest_pure (derivesUntil_nil (by simpa using hc))
  · refine honest_atEnd.bind fun vs b hvs => ?_
    subst hvs
    split
    · exact honest_fail_until hclose
    refine h.statement.bind fun us s hs => ?_
    refine (h.many hclose).bind fun vs body hvs => honest_pure ?_
    obtain ⟨ts, c, rfl, hck, hts⟩ := hvs
    exact ⟨us ++ ts, c, by simp, hck, .more hs hts⟩

/-- The branches of a choice are read honestly. -/
lemma Honest.branches_succ (h : Honest n) : (parseBranches (n + 1)).Honest DerivesBranches := by
  refine (honest_next? [.elseIf, .elseWord] (by decide)).bind fun us o ho => ?_
  rcases ho with ⟨t, rfl, rfl, ht⟩ | ⟨rfl, rfl⟩
  · simp only [List.mem_cons, List.not_mem_nil, or_false] at ht
    rcases ht with ht | ht <;> simp only [ht]
    · refine (Expr.honest_parseCondition n).bind fun cs condition hcondition => ?_
      refine h.block.bind fun bs body hbody => ?_
      refine h.branches.bind fun ms more hmore => honest_pure ?_
      simpa using DerivesBranches.elseIf ht hcondition hbody hmore
    · refine h.block.bind fun bs body hbody => honest_pure ?_
      simpa using DerivesBranches.otherwise ht hbody
  · exact honest_pure .none

/-- **The rules for statements are honest.** -/
lemma honest : ∀ n, Honest n
  | 0 => by
      refine ⟨honest_fail_rule viable_statement nofun, ?_, honest_fail_until, honest_pure .none⟩
      -- a block can be closed as soon as it is opened
      have hopen : ∀ t : Token, t.kind = .lbrace → Viable DerivesBlock [t] := fun t ht =>
        ⟨[.ofKind .rbrace], [], by simp, .mk ht .none rfl⟩
      refine honest_fail (Viable.of_append (hopen (.ofKind .lbrace) rfl) (by simp)) fun k hk => ?_
      obtain rfl := Expected.kind.inj hk
      exact ⟨rfl, hopen⟩
  | n + 1 =>
      have h := honest n
      ⟨h.statement_succ, h.block_succ, h.many_succ, h.branches_succ⟩

end Stmt

/-! ### Programs -/

namespace Program

/-- A program, with whatever may stand behind it. -/
def opening (budget : Nat) : Rule Program := do
  let head ← Rule.expect .programStart
  let body ← Stmt.parseUntil budget .programEnd
  return ⟨head.span, body⟩

/-- The rule for programs reads a program and then looks whether it is at the end. -/
lemma rule_eq (n : Nat) :
    rule n = (opening n >>= fun p => atEnd >>= fun b =>
      if b then pure p else Rule.fail (.kind .eof) .afterEnd) := by
  simp only [rule, opening, bind_assoc, pure_bind]

lemma honest_opening (n : Nat) : (opening n).Honest Derives := by
  refine (honest_expect .programStart rfl).bind fun _ o ⟨ho, hok⟩ => ?_
  subst ho
  refine ((Stmt.honest n).many (show Kind.programEnd.isSpelled = true from rfl)).bind
    fun us body hus => honest_pure ?_
  obtain ⟨ts, c, rfl, hck, hts⟩ := hus
  simpa using Derives.mk hok hts hck

/-- Behind a program the rule looks whether it is at the end. -/
lemma rule_of_opening {n : Nat} {ts r : List Token} {p : Program} (h : opening n ts = .ok (p, r)) :
    rule n ts = if sees r = none then .ok (p, r) else .error ⟨.kind .eof, .afterEnd, r⟩ := by
  rw [rule_eq, bind_of_ok h, bind_of_ok (atEnd_eq r)]
  cases sees r <;> rfl

/-- **The rule for programs succeeds** where a program is all that there is to read. -/
lemma rule_ok {n : Nat} {ts rest : List Token} {p : Program} :
    rule n ts = .ok (p, rest) ↔ opening n ts = .ok (p, rest) ∧ sees rest = none := by
  constructor
  · intro h
    obtain ⟨q, r, hopen, -⟩ := bind_ok.mp (rule_eq n ▸ h)
    rw [rule_of_opening hopen] at h
    split_ifs at h with hr
    obtain ⟨rfl, rfl⟩ := Prod.mk.inj (Except.ok.inj h)
    exact ⟨hopen, hr⟩
  · rintro ⟨hopen, hr⟩
    rw [rule_of_opening hopen, if_pos hr]

/-- **The rule for programs fails** in front of a token that does not go on with the program or
behind a program that is already complete. -/
lemma rule_error {n : Nat} {ts : List Token} {f : Mismatch} :
    rule n ts = .error f
      ↔ opening n ts = .error f
        ∨ ∃ p r, opening n ts = .ok (p, r) ∧ sees r ≠ none ∧ f = ⟨.kind .eof, .afterEnd, r⟩ := by
  cases hopen : opening n ts with
  | error g =>
      rw [rule_eq, bind_of_error hopen]
      simp
  | ok r =>
      obtain ⟨p, r⟩ := r
      rw [rule_of_opening hopen]
      split_ifs with hr <;> simp [hr, @eq_comm _ f]

/-- The rule for programs reads a program. -/
lemma derives_of_rule {n : Nat} {ts rest : List Token} {p : Program}
    (h : rule n ts = .ok (p, rest)) : ∃ us, ts = us ++ rest ∧ Derives us p := by
  obtain ⟨us, hts, -, hus⟩ := (honest_opening n).yields ts p rest (rule_ok.mp h).1
  exact ⟨us, hts, hus⟩

/-- **The rule for programs gives up behind tokens that can be completed**, also with a token of the
kind that it asks for. Where it asks for the end of input, they are a program. -/
lemma blames_of_rule {n : Nat} {ts : List Token} {f : Mismatch} (h : rule n ts = .error f) :
    ∃ us, ts = us ++ f.rest ∧ Viable Derives us
      ∧ ∀ k, f.expected = .kind k →
          (k.isSpelled = true ∧ ∀ t : Token, t.kind = k → Viable Derives (us ++ [t]))
          ∨ (k = .eof ∧ ∃ p, Derives us p) := by
  obtain hopen | ⟨p, r, hopen, -, rfl⟩ := rule_error.mp h
  · obtain ⟨us, hts, -, hviable, hkind⟩ := (honest_opening n).blames ts f hopen
    exact ⟨us, hts, hviable, fun k hk => Or.inl (hkind k hk)⟩
  · obtain ⟨us, hts, -, hp⟩ := (honest_opening n).yields ts p r hopen
    exact ⟨us, hts, viable_of hp, fun k hk => Or.inr ⟨(Expected.kind.inj hk).symm, p, hp⟩⟩

end Program

end LessonLang
