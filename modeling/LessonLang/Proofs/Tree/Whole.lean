import Mathlib.Tactic
import LessonLang.Machine.Operator

/-!
Whole trees: those that nothing is missing from.

* `Expr.spans` and `Stmt.spans` list the places of all nodes of a tree.
* `Expr.Whole P` and `Stmt.Whole P` say that every node stands at a place with the property `P`,
  that every operator is one, and that no node is absent but the conditions of else branches.
* `Program.Whole.at_spans`: the places of a whole program are among those that are listed for it.
-/

namespace LessonLang

/-! ### The places of a tree -/

namespace Expr

mutual

/-- The places of an expression and of all its parts. -/
def spans : Expr → List Span
  | .absent => []
  | .number s _ | .string s _ | .identifier s _ => [s]
  | .binary s _ l r => s :: (l.spans ++ r.spans)
  | .call s _ args => s :: spansOf args

/-- The places of several expressions. -/
def spansOf : List Expr → List Span
  | [] => []
  | e :: es => e.spans ++ spansOf es

end

end Expr

/-- The places of an assignment. -/
def Assignment.spans (a : Assignment) : List Span := a.span :: a.value.spans

mutual

/-- The places of a statement and of all its parts. -/
def Stmt.spans : Stmt → List Span
  | .absent => []
  | .assign a => a.spans
  | .print s e | .giveBack s e => s :: e.spans
  | .input s _ => [s]
  | .choose s bs => s :: Branch.spansOf bs
  | .loop s c body => s :: (c.spans ++ Stmt.spansOf body)
  | .count s init c inc body =>
    s :: ((init.map Assignment.spans).getD [] ++ (c.spans ++
      ((inc.map Assignment.spans).getD [] ++ Stmt.spansOf body)))
  | .function s _ _ body => s :: Stmt.spansOf body
  | .call s _ args => s :: Expr.spansOf args

/-- The places of several statements. -/
def Stmt.spansOf : List Stmt → List Span
  | [] => []
  | s :: body => s.spans ++ Stmt.spansOf body

/-- The places of a branch. -/
def Branch.spans : Branch → List Span
  | .absent => []
  | .mk s c body => s :: (c.spans ++ Stmt.spansOf body)

/-- The places of several branches. -/
def Branch.spansOf : List Branch → List Span
  | [] => []
  | b :: bs => b.spans ++ Branch.spansOf bs

end

/-- The places of all nodes of a program. -/
def Program.spans (p : Program) : List Span := p.span :: Stmt.spansOf p.body

/-! ### Whole trees -/

/-- A place that was set, to one with the property `P`. -/
def Span.Whole (P : Place → Prop) (s : Span) : Prop := ∃ p, s = some p ∧ P p

/-- **Whole expressions.** -/
inductive Expr.Whole (P : Place → Prop) : Expr → Prop where
  | number {s : Span} {x : Float} (hs : Span.Whole P s) : Whole P (.number s x)
  | string {s : Span} {t : Text} (hs : Span.Whole P s) : Whole P (.string s t)
  | identifier {s : Span} {name : Text} (hs : Span.Whole P s) : Whole P (.identifier s name)
  | binary {s : Span} {op : Text} {l r : Expr} (hs : Span.Whole P s)
      (hop : (Operator.ofText? op).isSome = true) (hl : Whole P l) (hr : Whole P r) :
      Whole P (.binary s op l r)
  | call {s : Span} {name : Text} {args : List Expr} (hs : Span.Whole P s)
      (hargs : ∀ e ∈ args, Whole P e) : Whole P (.call s name args)

/-- A whole assignment. -/
structure Assignment.Whole (P : Place → Prop) (a : Assignment) : Prop where
  span : Span.Whole P a.span
  value : a.value.Whole P

mutual

/-- **Whole statements.** -/
inductive Stmt.Whole (P : Place → Prop) : Stmt → Prop where
  | assign {a : Assignment} (ha : a.Whole P) : Stmt.Whole P (.assign a)
  | print {s : Span} {e : Expr} (hs : Span.Whole P s) (he : e.Whole P) : Stmt.Whole P (.print s e)
  | input {s : Span} {name : Text} (hs : Span.Whole P s) : Stmt.Whole P (.input s name)
  | choose {s : Span} {bs : List Branch} (hs : Span.Whole P s) (hbs : ∀ b ∈ bs, Branch.Whole P b) :
      Stmt.Whole P (.choose s bs)
  | loop {s : Span} {c : Expr} {body : List Stmt} (hs : Span.Whole P s) (hc : c.Whole P)
      (hbody : ∀ st ∈ body, Stmt.Whole P st) : Stmt.Whole P (.loop s c body)
  | count {s : Span} {init inc : Assignment} {c : Expr} {body : List Stmt} (hs : Span.Whole P s)
      (hinit : init.Whole P) (hc : c.Whole P) (hinc : inc.Whole P)
      (hbody : ∀ st ∈ body, Stmt.Whole P st) :
      Stmt.Whole P (.count s (some init) c (some inc) body)
  | function {s : Span} {name : Text} {params : List Text} {body : List Stmt}
      (hs : Span.Whole P s) (hbody : ∀ st ∈ body, Stmt.Whole P st) :
      Stmt.Whole P (.function s name params body)
  | call {s : Span} {name : Text} {args : List Expr} (hs : Span.Whole P s)
      (hargs : ∀ e ∈ args, e.Whole P) : Stmt.Whole P (.call s name args)
  | giveBack {s : Span} {e : Expr} (hs : Span.Whole P s) (he : e.Whole P) :
      Stmt.Whole P (.giveBack s e)

/-- **Whole branches.** The condition of an else branch is absent. -/
inductive Branch.Whole (P : Place → Prop) : Branch → Prop where
  | mk {s : Span} {c : Expr} {body : List Stmt} (hs : Span.Whole P s)
      (hc : c = .absent ∨ c.Whole P) (hbody : ∀ st ∈ body, Stmt.Whole P st) :
      Branch.Whole P (.mk s c body)

end

/-! ### The places of a whole tree are those listed for it -/

section places

variable {P Q : Place → Prop} {ss : List Span}

/-- The property `Q` holds at those places of the list that have the property `P`. -/
def Holds (P Q : Place → Prop) (ss : List Span) : Prop := ∀ p, P p → some p ∈ ss → Q p

lemma Holds.subset {ss' : List Span} (h : Holds P Q ss) (hs : ∀ s ∈ ss', s ∈ ss) : Holds P Q ss' :=
  fun p hp hmem => h p hp (hs _ hmem)

lemma Span.Whole.imp {s : Span} (hs : Span.Whole P s) (h : Holds P Q ss) (hmem : s ∈ ss) :
    Span.Whole Q s := by
  obtain ⟨p, rfl, hp⟩ := hs
  exact ⟨p, rfl, h p hp hmem⟩

lemma Expr.spansOf_eq (es : List Expr) : spansOf es = es.flatMap spans := by
  induction es with
  | nil => rfl
  | cons e es ih => rw [spansOf, ih, List.flatMap_cons]

lemma Stmt.spansOf_eq (body : List Stmt) : spansOf body = body.flatMap spans := by
  induction body with
  | nil => rfl
  | cons st body ih => rw [spansOf, ih, List.flatMap_cons]

lemma Branch.spansOf_eq (bs : List Branch) : spansOf bs = bs.flatMap spans := by
  induction bs with
  | nil => rfl
  | cons b bs ih => rw [spansOf, ih, List.flatMap_cons]

lemma Holds.member {α : Type} {f : α → List Span} {as : List α} {a : α} (h : Holds P Q ss)
    (hs : ∀ s ∈ as.flatMap f, s ∈ ss) (ha : a ∈ as) : Holds P Q (f a) :=
  h.subset fun s hmem => hs s (List.mem_flatMap.mpr ⟨a, ha, hmem⟩)

/-- A property of the listed places of a whole expression holds throughout it. -/
lemma Expr.Whole.imp : ∀ {e : Expr}, e.Whole P → Holds P Q e.spans → e.Whole Q
  | _, .number hs, h => .number (hs.imp h (by simp [Expr.spans]))
  | _, .string hs, h => .string (hs.imp h (by simp [Expr.spans]))
  | _, .identifier hs, h => .identifier (hs.imp h (by simp [Expr.spans]))
  | _, .binary hs hop hl hr, h =>
      .binary (hs.imp h (by simp [Expr.spans])) hop
        (hl.imp (h.subset (by simp +contextual [Expr.spans])))
        (hr.imp (h.subset (by simp +contextual [Expr.spans])))
  | _, .call hs hargs, h =>
      .call (hs.imp h (by simp [Expr.spans])) fun e he =>
        (hargs e he).imp (h.member (by simp +contextual [Expr.spans, ← Expr.spansOf_eq]) he)

lemma Assignment.Whole.imp {a : Assignment} (ha : a.Whole P) (h : Holds P Q a.spans) : a.Whole Q :=
  ⟨ha.span.imp h (by simp [Assignment.spans]),
    ha.value.imp (h.subset (by simp +contextual [Assignment.spans]))⟩

mutual

/-- A property of the listed places of a whole statement holds throughout it. -/
lemma Stmt.Whole.imp : ∀ {st : Stmt}, st.Whole P → Holds P Q st.spans → st.Whole Q
  | _, .assign ha, h => .assign (ha.imp (h.subset (by simp [Stmt.spans])))
  | _, .print hs he, h =>
      .print (hs.imp h (by simp [Stmt.spans]))
        (he.imp (h.subset (by simp +contextual [Stmt.spans])))
  | _, .input hs, h => .input (hs.imp h (by simp [Stmt.spans]))
  | _, .choose hs hbs, h =>
      .choose (hs.imp h (by simp [Stmt.spans])) fun b hb =>
        (hbs b hb).imp (h.member (by simp +contextual [Stmt.spans, ← Branch.spansOf_eq]) hb)
  | _, .loop hs hc hbody, h =>
      .loop (hs.imp h (by simp [Stmt.spans])) (hc.imp (h.subset (by simp +contextual [Stmt.spans])))
        fun st hst =>
          (hbody st hst).imp (h.member (by simp +contextual [Stmt.spans, ← Stmt.spansOf_eq]) hst)
  | _, .count hs hinit hc hinc hbody, h =>
      .count (hs.imp h (by simp [Stmt.spans]))
        (hinit.imp (h.subset (by simp +contextual [Stmt.spans])))
        (hc.imp (h.subset (by simp +contextual [Stmt.spans])))
        (hinc.imp (h.subset (by simp +contextual [Stmt.spans])))
        fun st hst =>
          (hbody st hst).imp (h.member (by simp +contextual [Stmt.spans, ← Stmt.spansOf_eq]) hst)
  | _, .function hs hbody, h =>
      .function (hs.imp h (by simp [Stmt.spans])) fun st hst =>
        (hbody st hst).imp (h.member (by simp +contextual [Stmt.spans, ← Stmt.spansOf_eq]) hst)
  | _, .call hs hargs, h =>
      .call (hs.imp h (by simp [Stmt.spans])) fun e he =>
        (hargs e he).imp (h.member (by simp +contextual [Stmt.spans, ← Expr.spansOf_eq]) he)
  | _, .giveBack hs he, h =>
      .giveBack (hs.imp h (by simp [Stmt.spans]))
        (he.imp (h.subset (by simp +contextual [Stmt.spans])))

lemma Branch.Whole.imp : ∀ {b : Branch}, b.Whole P → Holds P Q b.spans → b.Whole Q
  | _, .mk hs hc hbody, h =>
      .mk (hs.imp h (by simp [Branch.spans]))
        (hc.imp id fun hc => hc.imp (h.subset (by simp +contextual [Branch.spans])))
        fun st hst =>
          (hbody st hst).imp (h.member (by simp +contextual [Branch.spans, ← Stmt.spansOf_eq]) hst)

end

/-- A whole program. -/
structure Program.Whole (P : Place → Prop) (p : Program) : Prop where
  span : Span.Whole P p.span
  body : ∀ st ∈ p.body, st.Whole P

/-- **The places of a whole program** are those listed for it. -/
lemma Program.Whole.at_spans {p : Program} (h : p.Whole P) :
    p.Whole fun place => P place ∧ some place ∈ p.spans := by
  have hp : Holds P (fun place => P place ∧ some place ∈ p.spans) p.spans :=
    fun place hplace hmem => ⟨hplace, hmem⟩
  refine ⟨h.span.imp hp (by simp [Program.spans]), fun st hst => ?_⟩
  exact (h.body st hst).imp
    (hp.member (by simp +contextual [Program.spans, ← Stmt.spansOf_eq]) hst)

end places

end LessonLang
