import LessonLang.Tree
import LessonLang.Json

/-!
Program trees as JSON documents.

* `Program.toJson` turns a tree into a document. Every node becomes an object that names its type
  first, then its place if it has one, then its parts. A missing node becomes `null`.
-/

namespace LessonLang

/-- The object of a node. -/
def Json.node (type : String) (span : Span) (parts : List (String × Json)) : Json :=
  let place := match span with
    | none => []
    | some p =>
      [("span", .object [("start", .object [("line", .int p.line), ("column", .int p.column)])])]
  .object (("type", .string (utf8 type)) :: place ++ parts)

mutual

/-- The document of an expression. -/
def Expr.toJson : Expr → Json
  | .absent => .null
  | .number s x => .node "NumberLiteral" s [("value", .number x)]
  | .string s t => .node "StringLiteral" s [("value", .string t)]
  | .identifier s n => .node "Identifier" s [("name", .string n)]
  | .binary s op l r =>
    .node "BinaryExpression" s [("operator", .string op), ("left", l.toJson), ("right", r.toJson)]
  | .call s n args =>
    .node "FunctionCall" s [("name", .string n), ("args", .array (Expr.listToJson args))]

/-- The documents of a list of expressions. -/
def Expr.listToJson : List Expr → List Json
  | [] => []
  | e :: rest => e.toJson :: Expr.listToJson rest

end

/-- The document of an assignment. -/
def Assignment.toJson (a : Assignment) : Json :=
  .node "VariableDeclaration" a.span
    [("identifier", .string a.name), ("value", a.value.toJson), ("declared", .bool a.declared)]

mutual

/-- The document of a statement. -/
def Stmt.toJson : Stmt → Json
  | .absent => .null
  | .assign a => a.toJson
  | .print s e => .node "PrintStatement" s [("expression", e.toJson)]
  | .input s n => .node "InputStatement" s [("identifier", .string n)]
  | .choose s bs => .node "IfStatement" s [("branches", .array (Branch.listToJson bs))]
  | .loop s c body =>
    .node "WhileStatement" s [("condition", c.toJson), ("body", .array (Stmt.listToJson body))]
  | .count s i c inc body =>
    .node "ForStatement" s
      [("init", (i.map Assignment.toJson).getD .null), ("condition", c.toJson),
       ("increment", (inc.map Assignment.toJson).getD .null),
       ("body", .array (Stmt.listToJson body))]
  | .function s n params body =>
    .node "FunctionDeclaration" s
      [("name", .string n), ("params", .array (params.map .string)),
       ("body", .array (Stmt.listToJson body))]
  | .call s n args =>
    .node "FunctionCall" s [("name", .string n), ("args", .array (Expr.listToJson args))]
  | .giveBack s e => .node "ReturnStatement" s [("value", e.toJson)]

/-- The document of a branch. -/
def Branch.toJson : Branch → Json
  | .absent => .null
  | .mk s c body =>
    .node "IfBranch" s [("condition", c.toJson), ("body", .array (Stmt.listToJson body))]

/-- The documents of a list of statements. -/
def Stmt.listToJson : List Stmt → List Json
  | [] => []
  | s :: rest => s.toJson :: Stmt.listToJson rest

/-- The documents of a list of branches. -/
def Branch.listToJson : List Branch → List Json
  | [] => []
  | b :: rest => b.toJson :: Branch.listToJson rest

end

/-- The document of a program. -/
def Program.toJson (p : Program) : Json :=
  .node "Program" p.span [("body", .array (Stmt.listToJson p.body))]

end LessonLang
