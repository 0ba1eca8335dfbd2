import LessonLang.Proofs.Json.Read
import LessonLang.Tree.Dump

/-!
Reading the dumps of trees.

* `TreePart` is what a part of a dump stands for, and `TreePart.form` has the form of each `NodeType`.
  `Program.ofDump?` reads the text of a dump as a program.
* `TreePart.Restores f j x`: the document `j` is read as a part that `f` takes for `x`. There is one rule
  for nodes, with their places or without (`TreePart.reads_node`).
-/

namespace LessonLang

/-! ### Types of nodes -/

/-- The types of nodes. -/
inductive NodeType where
  | number | string | identifier | binary | call
  | assignment | print | input | choose | loop | count | function | giveBack | branch
  | program
  deriving DecidableEq

namespace NodeType

/-- The name of a type in dumps. -/
def name : NodeType → String
  | number => "NumberLiteral"
  | string => "StringLiteral"
  | identifier => "Identifier"
  | binary => "BinaryExpression"
  | call => "FunctionCall"
  | assignment => "VariableDeclaration"
  | print => "PrintStatement"
  | input => "InputStatement"
  | choose => "IfStatement"
  | loop => "WhileStatement"
  | count => "ForStatement"
  | function => "FunctionDeclaration"
  | giveBack => "ReturnStatement"
  | branch => "IfBranch"
  | program => "Program"

/-- All types of nodes. -/
def all : List NodeType :=
  [number, string, identifier, binary, call, assignment, print, input, choose, loop, count, function,
   giveBack, branch, program]

/-- The type with a given name. -/
def ofText? (t : Text) : Option NodeType := all.find? fun k => utf8 k.name == t

/-- **No two types have one name.** -/
lemma ofText?_name (k : NodeType) : ofText? (utf8 k.name) = some k := by
  have hall : ∀ k ∈ all, ofText? (utf8 k.name) = some k := by decide +kernel
  have hmem : k ∈ all := by cases k <;> decide
  exact hall k hmem

end NodeType

/-! ### Parts of dumps -/

/-- What a part of a dump stands for. -/
inductive TreePart where
  | nothing
  | flag (b : Bool)
  | number (n : Numeral)
  | text (t : Text)
  | place (p : Place)
  | list (parts : List TreePart)
  | assignment (a : Assignment)
  | expr (e : Expr)
  | stmt (s : Stmt)
  | branch (b : Branch)
  | program (p : Program)

namespace TreePart

/-- The integer that a numeral without an exponent stands for. -/
def int? (n : Numeral) : Option Int :=
  if n.magnitude.exponent = 0 then
    some (if n.negative then -(n.magnitude.digits : Int) else n.magnitude.digits)
  else none

/-- A finite number. -/
def number? : TreePart → Option Float
  | number n => n.toFinite?
  | _ => none

/-- A truth value. -/
def flag? : TreePart → Option Bool
  | flag b => some b
  | _ => none

/-- A text. -/
def text? : TreePart → Option Text
  | text t => some t
  | _ => none

/-- A list of things of one kind. -/
def list? {β : Type} (f : TreePart → Option β) : TreePart → Option (List β)
  | list parts => parts.mapM f
  | _ => none

/-- An expression, which may be absent. -/
def expr? : TreePart → Option Expr
  | nothing => some .absent
  | expr e => some e
  | _ => none

/-- An assignment, which may be missing. -/
def assignment? : TreePart → Option (Option Assignment)
  | nothing => some none
  | assignment a => some (some a)
  | _ => none

/-- A statement, which may be absent. Calls are written alike as statements and as expressions. -/
def stmt? : TreePart → Option Stmt
  | nothing => some .absent
  | assignment a => some (.assign a)
  | expr (.call s name args) => some (.call s name args)
  | stmt s => some s
  | _ => none

/-- A branch, which may be absent. -/
def branch? : TreePart → Option Branch
  | nothing => some .absent
  | branch b => some b
  | _ => none

/-- **The form of each type of node.** -/
def form (s : Span) : NodeType → List TreePart → Option TreePart
  | .number, [x] => do return expr (.number s (← x.number?))
  | .string, [t] => do return expr (.string s (← t.text?))
  | .identifier, [n] => do return expr (.identifier s (← n.text?))
  | .binary, [op, l, r] => do return expr (.binary s (← op.text?) (← l.expr?) (← r.expr?))
  | .call, [n, args] => do return expr (.call s (← n.text?) (← args.list? expr?))
  | .assignment, [n, value, d] => do
    return assignment ⟨s, ← n.text?, ← value.expr?, ← d.flag?⟩
  | .print, [e] => do return stmt (.print s (← e.expr?))
  | .input, [n] => do return stmt (.input s (← n.text?))
  | .choose, [bs] => do return stmt (.choose s (← bs.list? branch?))
  | .loop, [c, body] => do return stmt (.loop s (← c.expr?) (← body.list? stmt?))
  | .count, [i, c, inc, body] => do
    return stmt (.count s (← i.assignment?) (← c.expr?) (← inc.assignment?) (← body.list? stmt?))
  | .function, [n, params, body] => do
    return stmt (.function s (← n.text?) (← params.list? text?) (← body.list? stmt?))
  | .giveBack, [e] => do return stmt (.giveBack s (← e.expr?))
  | .branch, [c, body] => do return branch (.mk s (← c.expr?) (← body.list? stmt?))
  | .program, [body] => do return program ⟨s, ← body.list? stmt?⟩
  | _, _ => none

/-- A node whose type has a given name. -/
def node? (type : Text) (s : Span) (parts : List TreePart) : Option TreePart :=
  (NodeType.ofText? type).bind fun k => form s k parts

/-- An object: a place, the span around it, or a node with its span if it has one. -/
def object? : List TreePart → Option TreePart
  | [number l, number c] => do return place ⟨← int? l, ← int? c⟩
  | [place p] => some (place p)
  | text type :: place p :: parts => node? type (some p) parts
  | text type :: parts => node? type none parts
  | _ => none

/-- **What the documents in a dump stand for.** The parts of a node are known by their order. -/
def meaning : Json.Meaning TreePart where
  null := nothing
  bool := flag
  number := number
  string := text
  array := list
  object fields := object? (fields.map Prod.snd)

end TreePart

namespace TreePart

open Json (Meaning)

variable {β : Type} {f : TreePart → Option β}

/-- **The document `j` is read as a part** that `f` takes for `x`. -/
def Restores (f : TreePart → Option β) (j : Json) (x : β) : Prop :=
  ∃ r, meaning.Reads j r ∧ f r = some x

lemma restores_text {t : Text} (ht : t.isUtf8 = true) : Restores text? (.string t) t :=
  ⟨_, Meaning.reads_string t, congrArg some (Text.repaired_of_isUtf8 ht)⟩

lemma restores_flag (b : Bool) : Restores flag? (.bool b) b := ⟨_, Meaning.reads_bool b, rfl⟩

lemma restores_number {x : Float} (hx : x.isFinite = true) : Restores number? (.number x) x := by
  obtain ⟨n, hn, hread⟩ := Meaning.reads_number (m := meaning) hx
  exact ⟨_, hread, hn⟩

lemma restores_null {x : β} (hx : f .nothing = some x) : Restores f .null x :=
  ⟨_, Meaning.reads_null, hx⟩

lemma restores_list {js : List Json} {xs : List β} (h : List.Forall₂ (Restores f) js xs) :
    Restores (list? f) (.array js) xs := by
  have hparts : ∃ rs, List.Forall₂ meaning.Reads js rs ∧ rs.mapM f = some xs := by
    induction h with
    | nil => exact ⟨[], .nil, rfl⟩
    | cons hx _ ih =>
        obtain ⟨r, hr, hx⟩ := hx
        obtain ⟨rs, hrs, hxs⟩ := ih
        exact ⟨r :: rs, .cons hr hrs, by simp [hx, hxs]⟩
  obtain ⟨rs, hrs, hxs⟩ := hparts
  exact ⟨_, Meaning.reads_array hrs, hxs⟩

lemma int?_ofInt (k : Int) : int? (Meaning.ofInt k) = some k := by
  cases k <;> rfl

/-- A span is read as its place. -/
lemma reads_span (p : Place) : meaning.Reads
    (.object [("start", .object [("line", .int p.line), ("column", .int p.column)])]) (place p) := by
  have hplace : meaning.Reads (.object [("line", .int p.line), ("column", .int p.column)]) (place p) := by
    refine Meaning.reads_object
      (.cons ((Meaning.reads_int p.line).field _) (.cons ((Meaning.reads_int p.column).field _) .nil)) ?_
    change (do return place ⟨← int? (Meaning.ofInt p.line), ← int? (Meaning.ofInt p.column)⟩) = _
    rw [int?_ofInt, int?_ofInt]
    rfl
  exact Meaning.reads_object (.cons (hplace.field _) .nil) rfl

lemma object?_text {type : Text} {rs : List TreePart} (hfirst : ∀ p rest, rs ≠ place p :: rest) :
    object? (text type :: rs) = node? type none rs := by
  cases rs with
  | nil => rfl
  | cons r rs =>
      cases r with
      | place p => exact absurd rfl (hfirst p rs)
      | _ => rfl

/-- A part that is taken for something else is no place. -/
lemma ne_place {r : TreePart} {rs : List TreePart} {x : β} (hf : ∀ p, f (place p) = none)
    (hx : f r = some x) : ∀ p rest, r :: rs ≠ place p :: rest := by
  rintro p rest ⟨⟩
  rw [hf] at hx
  exact absurd hx (by simp)

/-- **A node is read** as its form says, with its span or without one. -/
lemma reads_node (k : NodeType) {s : Span} {parts : List (String × Json)} {rs : List TreePart}
    {r : TreePart} (h : List.Forall₂ (fun f r => meaning.Reads f.2 r) parts rs)
    (hfirst : ∀ p rest, rs ≠ place p :: rest) (hr : form s k rs = some r) :
    meaning.Reads (Json.node k.name s parts) r := by
  have hfields : ∃ xs, List.Forall₂ meaning.ReadsField parts xs ∧ xs.map Prod.snd = rs := by
    clear hfirst hr
    induction h with
    | nil => exact ⟨[], .nil, rfl⟩
    | cons hf _ ih =>
        obtain ⟨xs, hxs, rfl⟩ := ih
        exact ⟨_, .cons (hf.field _) hxs, rfl⟩
  obtain ⟨xs, hxs, rfl⟩ := hfields
  have htype : meaning.Reads (.string (utf8 k.name)) (text (utf8 k.name)) := by
    have hread := Meaning.reads_string (m := meaning) (utf8 k.name)
    rwa [Text.repaired_of_isUtf8 (Text.isUtf8_utf8 k.name)] at hread
  have hnode : node? (utf8 k.name) s (xs.map Prod.snd) = some r := by
    rw [node?, NodeType.ofText?_name]
    exact hr
  cases s with
  | none =>
      refine Meaning.reads_object (.cons (htype.field _) hxs) ?_
      exact (object?_text hfirst).trans hnode
  | some p =>
      exact Meaning.reads_object (.cons (htype.field _) (.cons ((reads_span p).field _) hxs)) hnode

section forms

variable {γ δ : Type} {g : TreePart → Option γ} {h : TreePart → Option δ} {s : Span}
  {field field' field'' : String} {j j' j'' : Json} {x : β} {y : γ} {z : δ}

/-- A node with one part is read if the part is restored. -/
lemma reads_node₁ (k : NodeType) (make : β → TreePart) (hx : Restores f j x)
    (hf : ∀ p, f (place p) = none) (hform : ∀ a, form s k [a] = do return make (← f a)) :
    meaning.Reads (Json.node k.name s [(field, j)]) (make x) := by
  obtain ⟨a, ha, hx⟩ := hx
  refine reads_node k (.cons ha .nil) (ne_place hf hx) ?_
  rw [hform, hx]
  rfl

/-- A node with two parts is read if they are restored. -/
lemma reads_node₂ (k : NodeType) (make : β → γ → TreePart) (hx : Restores f j x)
    (hy : Restores g j' y) (hf : ∀ p, f (place p) = none)
    (hform : ∀ a b, form s k [a, b] = do return make (← f a) (← g b)) :
    meaning.Reads (Json.node k.name s [(field, j), (field', j')]) (make x y) := by
  obtain ⟨a, ha, hx⟩ := hx
  obtain ⟨b, hb, hy⟩ := hy
  refine reads_node k (.cons ha (.cons hb .nil)) (ne_place hf hx) ?_
  rw [hform, hx, hy]
  rfl

/-- A node with three parts is read if they are restored. -/
lemma reads_node₃ (k : NodeType) (make : β → γ → δ → TreePart) (hx : Restores f j x)
    (hy : Restores g j' y) (hz : Restores h j'' z) (hf : ∀ p, f (place p) = none)
    (hform : ∀ a b c, form s k [a, b, c] = do return make (← f a) (← g b) (← h c)) :
    meaning.Reads (Json.node k.name s [(field, j), (field', j'), (field'', j'')]) (make x y z) := by
  obtain ⟨a, ha, hx⟩ := hx
  obtain ⟨b, hb, hy⟩ := hy
  obtain ⟨c, hc, hz⟩ := hz
  refine reads_node k (.cons ha (.cons hb (.cons hc .nil))) (ne_place hf hx) ?_
  rw [hform, hx, hy, hz]
  rfl

end forms

end TreePart

end LessonLang
