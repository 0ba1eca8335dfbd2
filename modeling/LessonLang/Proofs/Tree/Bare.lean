import Mathlib.Tactic
import LessonLang.Tree

/-!
Trees without their layout.

* `Expr.bare`, `Stmt.bare` and `Program.bare` put every node of a tree at one and the same place.
  Two trees that are equal then differ in nothing but the places of their nodes.
* The mark of a declaration passes through a function `d`: with the identity it is kept, and with
  a constant function trees become equal that differ in how assignments were written, too.
-/

namespace LessonLang

/-- The place of all nodes of a bare tree. -/
def Span.blank : Span := some .unset

namespace Expr

mutual

/-- An expression without its layout. -/
def bare : Expr → Expr
  | .absent => .absent
  | .number _ x => .number .blank x
  | .string _ t => .string .blank t
  | .identifier _ name => .identifier .blank name
  | .binary _ op l r => .binary .blank op l.bare r.bare
  | .call _ name args => .call .blank name (bareAll args)

/-- Expressions without their layout. -/
def bareAll : List Expr → List Expr
  | [] => []
  | e :: es => e.bare :: bareAll es

end

@[simp] lemma bareAll_eq (es : List Expr) : bareAll es = es.map bare := by
  induction es with
  | nil => rfl
  | cons e es ih => rw [bareAll, ih, List.map_cons]

end Expr

/-- An assignment without its layout. -/
def Assignment.bare (d : Bool → Bool) (a : Assignment) : Assignment :=
  ⟨.blank, a.name, a.value.bare, d a.declared⟩

mutual

/-- A statement without its layout. -/
def Stmt.bare (d : Bool → Bool) : Stmt → Stmt
  | .absent => .absent
  | .assign a => .assign (a.bare d)
  | .print _ e => .print .blank e.bare
  | .input _ name => .input .blank name
  | .choose _ bs => .choose .blank (Branch.bareAll d bs)
  | .loop _ c body => .loop .blank c.bare (Stmt.bareAll d body)
  | .count _ init c inc body =>
    .count .blank (init.map (Assignment.bare d)) c.bare (inc.map (Assignment.bare d))
      (Stmt.bareAll d body)
  | .function _ name params body => .function .blank name params (Stmt.bareAll d body)
  | .call _ name args => .call .blank name (args.map Expr.bare)
  | .giveBack _ e => .giveBack .blank e.bare

/-- Statements without their layout. -/
def Stmt.bareAll (d : Bool → Bool) : List Stmt → List Stmt
  | [] => []
  | s :: body => s.bare d :: Stmt.bareAll d body

/-- A branch without its layout. -/
def Branch.bare (d : Bool → Bool) : Branch → Branch
  | .absent => .absent
  | .mk _ c body => .mk .blank c.bare (Stmt.bareAll d body)

/-- Branches without their layout. -/
def Branch.bareAll (d : Bool → Bool) : List Branch → List Branch
  | [] => []
  | b :: bs => b.bare d :: Branch.bareAll d bs

end

@[simp] lemma Stmt.bareAll_eq (d : Bool → Bool) (body : List Stmt) :
    Stmt.bareAll d body = body.map (Stmt.bare d) := by
  induction body with
  | nil => rfl
  | cons s body ih => rw [Stmt.bareAll, ih, List.map_cons]

@[simp] lemma Branch.bareAll_eq (d : Bool → Bool) (bs : List Branch) :
    Branch.bareAll d bs = bs.map (Branch.bare d) := by
  induction bs with
  | nil => rfl
  | cons b bs ih => rw [Branch.bareAll, ih, List.map_cons]

/-- **A program without its layout.** -/
def Program.bare (d : Bool → Bool) (p : Program) : Program := ⟨.blank, p.body.map (Stmt.bare d)⟩

end LessonLang
