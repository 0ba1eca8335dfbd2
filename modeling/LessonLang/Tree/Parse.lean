import LessonLang.Tree
import LessonLang.Token.Scan

/-!
From tokens to trees.

* `Expr.parse` reads expressions: four levels of binary operators, each grouping to the left, over
  negations, literals, identifiers, calls and parentheses.
* `Stmt.parse` reads statements, each recognised by its first token.
* `Program.parse` reads a program up to an end of input. If there is none, it lies behind the last
  token.
* `Program.ofSource` scans and parses a source text.

Every rule looks at most two tokens ahead and stops at the first token it cannot use. A `Mismatch` says
what was expected there; `ParseError` adds what was found.

The rules carry a budget that bounds how deep they nest. A rule that reads no token passes the turn
at most a dozen times before one does, so the budget that `Program.parse` hands out is never used up.
-/

namespace LessonLang

/-! ### Mismatches -/

/-- What would have been accepted in place of the token found. -/
inductive Expected where
  | kind (k : Kind)
  | statement
  | expression
  | assignOrCall
  deriving DecidableEq, Repr

/-- What else there is to say about a mismatch. -/
inductive Detail where
  | plain
  | afterEnd
  | elseWithoutIf
  | startsStatement (name : Text)
  deriving DecidableEq, Repr

/-- A mismatch, at the front of the tokens that are left. -/
structure Mismatch where
  expected : Expected
  detail : Detail
  rest : List Token

/-- A rule reads some tokens and leaves the others. -/
abbrev Rule (α : Type) := StateT (List Token) (Except Mismatch) α

namespace Rule

/-- Gives up in front of the next token. -/
def fail {α : Type} (expected : Expected) (detail : Detail := .plain) : Rule α := fun ts =>
  .error ⟨expected, detail, ts⟩

/-- Reads a token of the given kind. -/
def expect (k : Kind) : Rule Token := fun ts =>
  match ts with
  | t :: rest => if t.kind == k then .ok (t, rest) else .error ⟨.kind k, .plain, ts⟩
  | [] => .error ⟨.kind k, .plain, ts⟩

/-- Reads a token if its kind is one of `ks`. -/
def next? (ks : List Kind) : Rule (Option Token) := fun ts =>
  match ts with
  | t :: rest => if ks.contains t.kind then .ok (some t, rest) else .ok (none, ts)
  | [] => .ok (none, ts)

/-- Says whether the next token has the given kind. -/
def at? (k : Kind) : Rule Bool := fun ts =>
  .ok (ts.head?.any fun t => t.kind == k, ts)

/-- Says whether there is nothing left to read: the next token is the end of input, or there is none. -/
def atEnd : Rule Bool := fun ts =>
  .ok (ts.head?.all fun t => t.kind == .eof, ts)

end Rule

/-! ### Expressions -/

namespace Expr

/-- The levels of binary operators, from the loosest to the tightest. -/
def levels : List (List Kind) :=
  [[.equal, .notEqual], [.less, .greater, .lessEq, .greaterEq], [.plus, .minus], [.star, .slash]]

mutual

/-- Binary operators of the given levels. -/
def parseLevels : (budget : Nat) → List (List Kind) → Rule Expr
  | 0, _ => Rule.fail .expression
  | n + 1, [] => parseUnary n
  | n + 1, ops :: tighter => do
    let left ← parseLevels n tighter
    parseChain n ops tighter left

/-- The operators of one level that follow the operand `left`, grouped to the left. -/
def parseChain : (budget : Nat) → List Kind → List (List Kind) → Expr → Rule Expr
  | 0, _, _, _ => Rule.fail .expression
  | n + 1, ops, tighter, left => do
    match ← Rule.next? ops with
    | none => return left
    | some op =>
      let right ← parseLevels n tighter
      parseChain n ops tighter (.binary op.span op.text left right)

/-- A negation, which is read as a subtraction from zero, or an operand. -/
def parseUnary : (budget : Nat) → Rule Expr
  | 0 => Rule.fail .expression
  | n + 1 => do
    match ← Rule.next? [.minus] with
    | none => parsePrimary n
    | some op =>
      let operand ← parseUnary n
      return .binary op.span (utf8 "-") (.number op.span 0) operand

/-- A literal, an identifier, a call or an expression in parentheses. -/
def parsePrimary : (budget : Nat) → Rule Expr
  | 0 => Rule.fail .expression
  | n + 1 => do
    match ← Rule.next? [.number, .string, .identifier, .lparen] with
    | none => Rule.fail .expression
    | some t =>
      match t.kind with
      | .number => return .number t.span t.number
      | .string => return .string t.span t.text
      | .identifier =>
        if ← Rule.at? .lparen then
          let args ← parseArguments n
          return .call t.span t.text args
        else return .identifier t.span t.text
      | _ =>
        let e ← parseLevels n levels
        let _ ← Rule.expect .rparen
        return e

/-- The arguments of a call, in parentheses. -/
def parseArguments : (budget : Nat) → Rule (List Expr)
  | 0 => Rule.fail .expression
  | n + 1 => do
    let _ ← Rule.expect .lparen
    match ← Rule.next? [.rparen] with
    | some _ => return []
    | none =>
      let args ← parseCommaList n
      let _ ← Rule.expect .rparen
      return args

/-- One or more expressions with commas between them. -/
def parseCommaList : (budget : Nat) → Rule (List Expr)
  | 0 => Rule.fail .expression
  | n + 1 => do
    let e ← parseLevels n levels
    match ← Rule.next? [.comma] with
    | none => return [e]
    | some _ => return e :: (← parseCommaList n)

end

/-- An expression. -/
def parse (budget : Nat) : Rule Expr := parseLevels budget levels

end Expr

/-! ### Statements -/

/-- An assignment that ends with a semicolon. Its place is that of `head`. -/
def Assignment.parse (budget : Nat) (head : Token) (declared : Bool) : Rule Assignment := do
  let name ← Rule.expect .identifier
  let _ ← Rule.expect .assign
  let value ← Expr.parse budget
  let _ ← Rule.expect .semicolon
  return ⟨head.span, name.text, value, declared⟩

/-- An expression in parentheses. -/
def Expr.parseCondition (budget : Nat) : Rule Expr := do
  let _ ← Rule.expect .lparen
  let e ← Expr.parse budget
  let _ ← Rule.expect .rparen
  return e

/-- One or more parameter names with commas between them. -/
def parseNames : (budget : Nat) → Rule (List Text)
  | 0 => Rule.fail (.kind .identifier)
  | n + 1 => do
    let name ← Rule.expect .identifier
    match ← Rule.next? [.comma] with
    | none => return [name.text]
    | some _ => return name.text :: (← parseNames n)

/-- The parameters of a function, in parentheses. -/
def parseParams (budget : Nat) : Rule (List Text) := do
  let _ ← Rule.expect .lparen
  match ← Rule.next? [.rparen] with
  | some _ => return []
  | none =>
    let names ← parseNames budget
    let _ ← Rule.expect .rparen
    return names

/-- The parts of a counting loop between its parentheses. The last semicolon may be left out. -/
def parseCount (budget : Nat) : Rule (Assignment × Expr × Assignment) := do
  let _ ← Rule.expect .lparen
  let head ← Rule.expect .declare
  let init ← Assignment.parse budget head true
  let condition ← Expr.parse budget
  let _ ← Rule.expect .semicolon
  let name ← Rule.expect .identifier
  let _ ← Rule.expect .assign
  let value ← Expr.parse budget
  let _ ← Rule.next? [.semicolon]
  let _ ← Rule.expect .rparen
  return (init, condition, ⟨name.span, name.text, value, false⟩)

namespace Stmt

/-- The statement that begins with an identifier: an assignment or a call. -/
def parseNamed (budget : Nat) (t : Token) : Rule Stmt := do
  if ← Rule.at? .assign then
    let _ ← Rule.expect .assign
    let value ← Expr.parse budget
    let _ ← Rule.expect .semicolon
    return .assign ⟨t.span, t.text, value, false⟩
  else if ← Rule.at? .lparen then
    let args ← Expr.parseArguments budget
    let _ ← Rule.expect .semicolon
    return .call t.span t.text args
  else Rule.fail .assignOrCall (.startsStatement t.text)

/-- The kinds that begin a statement. -/
def heads : List Kind :=
  [.declare, .print, .input, .ifWord, .whileWord, .forWord, .function, .returnWord, .identifier]

mutual

/-- A statement, recognised by its first token. -/
def parse : (budget : Nat) → Rule Stmt
  | 0 => Rule.fail .statement
  | n + 1 => do
    match ← Rule.next? heads with
    | none =>
      if (← Rule.at? .elseIf) || (← Rule.at? .elseWord) then Rule.fail .statement .elseWithoutIf
      else Rule.fail .statement
    | some t =>
      match t.kind with
      | .declare => return .assign (← Assignment.parse n t true)
      | .print =>
        let e ← Expr.parse n
        let _ ← Rule.expect .semicolon
        return .print t.span e
      | .input =>
        let name ← Rule.expect .identifier
        let _ ← Rule.expect .semicolon
        return .input t.span name.text
      | .ifWord =>
        let condition ← Expr.parseCondition n
        let body ← parseBlock n
        let more ← parseBranches n
        return .choose t.span (.mk t.span condition body :: more)
      | .whileWord =>
        let condition ← Expr.parseCondition n
        let body ← parseBlock n
        return .loop t.span condition body
      | .forWord =>
        let (init, condition, increment) ← parseCount n
        let body ← parseBlock n
        return .count t.span (some init) condition (some increment) body
      | .function =>
        let name ← Rule.expect .identifier
        let params ← parseParams n
        let body ← parseBlock n
        return .function t.span name.text params body
      | .returnWord =>
        let e ← Expr.parse n
        let _ ← Rule.expect .semicolon
        return .giveBack t.span e
      | _ => parseNamed n t

/-- Statements in braces. -/
def parseBlock : (budget : Nat) → Rule (List Stmt)
  | 0 => Rule.fail (.kind .lbrace)
  | n + 1 => do
    let _ ← Rule.expect .lbrace
    parseUntil n .rbrace

/-- Statements up to a closing token, which is read too. -/
def parseUntil : (budget : Nat) → Kind → Rule (List Stmt)
  | 0, close => Rule.fail (.kind close)
  | n + 1, close => do
    match ← Rule.next? [close] with
    | some _ => return []
    | none =>
      if ← Rule.atEnd then Rule.fail (.kind close)
      else
        let s ← parse n
        return s :: (← parseUntil n close)

/-- The branches that follow the first one of an if-chain. -/
def parseBranches : (budget : Nat) → Rule (List Branch)
  | 0 => return []
  | n + 1 => do
    match ← Rule.next? [.elseIf, .elseWord] with
    | none => return []
    | some t =>
      if t.kind == .elseIf then
        let condition ← Expr.parseCondition n
        let body ← parseBlock n
        return .mk t.span condition body :: (← parseBranches n)
      else
        let body ← parseBlock n
        return [.mk t.span .absent body]

end

end Stmt

/-! ### Programs -/

/-- A mismatch together with the token that was found, and the place that is reported. -/
structure ParseError where
  expected : Expected
  detail : Detail
  found : Token
  pos : Pos

namespace Expected

/-- The wording of an expectation. -/
def shown : Expected → Text
  | kind k => k.name
  | statement => utf8 "statement"
  | expression => utf8 "expression"
  | assignOrCall => utf8 "EQUAL or LPAREN"

end Expected

namespace Detail

/-- The wording of a detail, empty if there is nothing to say. -/
def shown : Detail → Text
  | plain => []
  | afterEnd => utf8 "unexpected input after program end"
  | elseWithoutIf => utf8 "else without if"
  | startsStatement name => utf8 "identifier " ++ name.quoted ++ utf8 " starts a statement"

end Detail

namespace ParseError

/-- The message for a token that does not fit. -/
def message (e : ParseError) : Text :=
  let place := if 0 < e.pos.line then e.pos.shown ++ utf8 ": " else []
  let detail := if e.detail.shown.isEmpty then [] else e.detail.shown ++ utf8 ": "
  place ++ detail ++ utf8 "expected " ++ e.expected.shown ++ utf8 ", found " ++ e.found.description

end ParseError

/-- A source text that is no program. -/
inductive SourceError where
  | lex (e : LexError)
  | parse (e : ParseError)

namespace SourceError

/-- The message for a source text that is no program. -/
def message : SourceError → Text
  | lex e => e.message
  | parse e => e.message

end SourceError

namespace Program

/-- A program: statements between the opening and the closing phrase, and nothing behind them. -/
def rule (budget : Nat) : Rule Program := do
  let head ← Rule.expect .programStart
  let body ← Stmt.parseUntil budget .programEnd
  if ← Rule.atEnd then return ⟨head.span, body⟩
  else Rule.fail (.kind .eof) .afterEnd

/-- A budget that no list of `n` tokens uses up. -/
def budget (n : Nat) : Nat := 16 * (n + 1)

/-- The program that a list of tokens spells. Behind the last token the parser finds an end of input at
the place of that token. -/
def parse (ts : List Token) : Except ParseError Program :=
  match rule (budget ts.length) ts with
  | .ok (p, _) => .ok p
  | .error f =>
    let found := f.rest.head?.getD (Token.eof ((ts.getLast?.map Token.pos).getD Pos.unset))
    .error ⟨f.expected, f.detail, found, found.pos⟩

/-- The program that a source text spells. -/
def ofSource (src : Text) : Except SourceError Program :=
  match tokenize src with
  | .error e => .error (.lex e)
  | .ok ts =>
    match parse ts with
    | .error e => .error (.parse e)
    | .ok p => .ok p

end Program

end LessonLang
