import LessonLang.Token

/-!
Program trees.

* `Expr` has literals, identifiers, binary operations and calls.
* `Stmt` has assignments, printing, input, the if-chain with its `Branch`es, the two loops, function
  declarations, calls and returns.
* `Program` is a list of statements.

Every node may carry the place where it was written. A tree that was put together by hand may lack
nodes: `absent` stands where one is missing. In a parsed tree the only missing nodes are the
conditions of else branches.
-/

namespace LessonLang

/-- Line and column of a node. -/
structure Place where
  line : Int
  column : Int
  deriving DecidableEq, Repr, Inhabited

namespace Place

/-- The place of a node that has none. -/
def unset : Place := ⟨0, 0⟩

/-- Line and column of a position. -/
def ofPos (p : Pos) : Place := ⟨p.line, p.column⟩

end Place

/-- The place of a node, if it has one. -/
abbrev Span := Option Place

/-- The place where a token was found. -/
def Token.span (t : Token) : Span := some (Place.ofPos t.pos)

/-- Expressions. An operator is kept as it was spelled. -/
inductive Expr where
  | absent
  | number (span : Span) (value : Float)
  | string (span : Span) (value : Text)
  | identifier (span : Span) (name : Text)
  | binary (span : Span) (operator : Text) (left right : Expr)
  | call (span : Span) (name : Text) (args : List Expr)
  deriving Inhabited

/-- The place of an expression. -/
def Expr.span : Expr → Span
  | .absent => none
  | .number s _ | .string s _ | .identifier s _ | .binary s .. | .call s .. => s

/-- An assignment. `declared` records whether it was written as a declaration; both spellings mean
the same. -/
structure Assignment where
  span : Span
  name : Text
  value : Expr
  declared : Bool
  deriving Inhabited

mutual

/-- Statements. -/
inductive Stmt where
  | absent
  | assign (a : Assignment)
  | print (span : Span) (value : Expr)
  | input (span : Span) (name : Text)
  | choose (span : Span) (branches : List Branch)
  | loop (span : Span) (condition : Expr) (body : List Stmt)
  | count (span : Span) (init : Option Assignment) (condition : Expr)
      (increment : Option Assignment) (body : List Stmt)
  | function (span : Span) (name : Text) (params : List Text) (body : List Stmt)
  | call (span : Span) (name : Text) (args : List Expr)
  | giveBack (span : Span) (value : Expr)

/-- The branches of an if-chain. A branch without a condition is always taken. -/
inductive Branch where
  | absent
  | mk (span : Span) (condition : Expr) (body : List Stmt)

end

instance : Inhabited Stmt := ⟨.absent⟩

instance : Inhabited Branch := ⟨.absent⟩

/-- A declared function. -/
structure Function where
  span : Span
  name : Text
  params : List Text
  body : List Stmt
  deriving Inhabited

/-- A whole program. -/
structure Program where
  span : Span
  body : List Stmt
  deriving Inhabited

end LessonLang
