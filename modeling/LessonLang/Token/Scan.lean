import LessonLang.Token
import LessonLang.Text.Blank

/-!
Cutting a source text into tokens.

* `gapLength` measures the white space and comments in front of the next lexeme.
* `lexeme` decides what starts with the first byte behind the gap and how far it reaches: the longest
  keyword phrase, else an operator of two bytes, else one of one byte, else a string up to its closing
  quotation mark, else a run of digits or of identifier bytes.
* `tokenize` repeats the two until the text is used up. Positions are counted over what was cut off,
  so gaps and lexemes tile the text and every position is the true one.
-/

namespace LessonLang

/-- The keyword phrases in the order in which they are tried: longer ones first, so that a phrase
never hides one that continues it. -/
def keywords : List (String × Kind) :=
  [("nahole jodi dada", .elseIf), ("nomoshkar dada", .programStart), ("porashona dada", .input),
   ("jachchhi dada", .programEnd), ("jotokhon dada", .whileWord), ("joto bar dada", .forWord),
   ("nahole dada", .elseWord), ("phiriye dao", .returnWord), ("dada ei je", .declare),
   ("bolo dada", .print), ("jodi dada", .ifWord), ("dada kaj", .function)]

/-- The operators of two bytes. -/
def longOperators : List (Text × Kind) :=
  [(utf8 "==", .equal), (utf8 "!=", .notEqual), (utf8 "<=", .lessEq), (utf8 ">=", .greaterEq)]

/-- The operators of one byte. -/
def shortOperators : List (UInt8 × Kind) :=
  [(0x3d, .assign), (0x3c, .less), (0x3e, .greater), (0x2b, .plus), (0x2d, .minus), (0x2a, .star),
   (0x2f, .slash), (0x3b, .semicolon), (0x2c, .comma), (0x28, .lparen), (0x29, .rparen),
   (0x7b, .lbrace), (0x7d, .rbrace)]

/-- A byte that may start an identifier. -/
def isNameStart (b : UInt8) : Bool := isLetter b || b == 0x5f

/-- A byte that may continue an identifier. -/
def isNamePart (b : UInt8) : Bool := isNameStart b || isDigit b

/-! ### Gaps -/

/-- What the bytes of a gap belong to. -/
inductive GapState where
  /-- the next `n` bytes still belong to the white space read last -/
  | blank (n : Nat)
  /-- a comment, which ends with its line -/
  | comment

/-- The number of bytes of white space and comments at the front of a text. -/
def gapLength : GapState → Text → Nat
  | _, [] => 0
  | .comment, b :: rest => gapLength (if b == 0x0a then .blank 0 else .comment) rest + 1
  | .blank (n + 1), _ :: rest => gapLength (.blank n) rest + 1
  | .blank 0, b :: rest =>
    let (piece, width) := Text.first b rest
    if piece.isBlank then gapLength (.blank (width - 1)) rest + 1
    else if b == 0x2f && rest.head? == some 0x2f then gapLength .comment rest + 1
    else 0

/-! ### Lexemes -/

/-- Why no lexeme starts at a place. -/
inductive LexFault where
  | unterminated
  | unrecognized (c : Char)
  deriving DecidableEq, Repr

/-- The distance to the closing quotation mark of a string, where `skip` bytes are still shielded by
a backslash. A backslash shields the whole character behind it. -/
def closingQuote : (skip : Nat) → Text → Option Nat
  | _, [] => none
  | skip + 1, _ :: rest => (closingQuote skip rest).map (· + 1)
  | 0, b :: rest =>
    if b == 0x22 then some 0
    else if b == 0x5c then
      let width := match rest with
        | [] => 0
        | c :: more => (Text.first c more).2
      (closingQuote width rest).map (· + 1)
    else (closingQuote 0 rest).map (· + 1)

/-- The first keyword phrase, in the order of trial, that a text starts with. -/
def keywordAt (t : Text) : Option (Kind × Nat) :=
  (keywords.find? fun entry => t.startsWith (utf8 entry.1)).map fun entry =>
    (entry.2, (utf8 entry.1).length)

/-- The lexeme that starts with the byte `b`: its kind, and how many bytes of it lie behind `b`. -/
def lexeme (b : UInt8) (rest : Text) : Except LexFault (Kind × Nat) :=
  match keywordAt (b :: rest) with
  | some (kind, length) => .ok (kind, length - 1)
  | none =>
    match longOperators.lookup ((b :: rest).take 2) with
    | some kind => .ok (kind, 1)
    | none =>
      match shortOperators.lookup b with
      | some kind => .ok (kind, 0)
      | none =>
        if b == 0x22 then
          match closingQuote 0 rest with
          | some n => .ok (.string, n + 1)
          | none => .error .unterminated
        else if isDigit b then .ok (.number, (rest.takeWhile isDigit).length)
        else if isNameStart b then .ok (.identifier, (rest.takeWhile isNamePart).length)
        else match (Text.first b rest).1 with
          | .char c => .error (.unrecognized c)
          | .stray _ => .error (.unrecognized '\ufffd')

/-- The number that a run of digits denotes, rounded to the nearest and beyond all numbers to
infinity. -/
def digitsNumber (ds : Text) : Float :=
  numberOf false (Decimal.nearest ⟨digitsValue ds, 0⟩)

/-- The token of a lexeme with the given bytes. -/
def Token.ofLexeme (kind : Kind) (raw : Text) (pos : Pos) : Token :=
  match kind with
  | .string => ⟨.string, (raw.drop 1).dropLast, 0, pos⟩
  | .number => ⟨.number, raw, digitsNumber raw, pos⟩
  | kind => ⟨kind, raw, 0, pos⟩

/-! ### Whole texts -/

/-- A fault and the place where it lies. -/
structure LexError where
  fault : LexFault
  pos : Pos
  deriving DecidableEq, Repr

namespace LexError

/-- The fault in words. -/
def reason (e : LexError) : Text :=
  match e.fault with
  | .unterminated => utf8 "unterminated string"
  | .unrecognized _ => utf8 "unrecognized character"

/-- The character at fault: an unterminated string is charged to its opening quotation mark. -/
def char (e : LexError) : Char :=
  match e.fault with
  | .unterminated => '"'
  | .unrecognized c => c

/-- The message for a fault. -/
def message (e : LexError) : Text :=
  let shown := match e.fault with
    | .unterminated => []
    | .unrecognized c => 0x20 :: quotedChar c
  e.pos.shown ++ utf8 ": " ++ e.reason ++ shown

end LexError

/-- The tokens of the text that starts at `pos`. -/
def tokenizeFrom (pos : Pos) (src : Text) : Except LexError (List Token) :=
  let gap := gapLength (.blank 0) src
  let pos := pos.advance (src.take gap)
  match h : src.drop gap with
  | [] => .ok [Token.eof pos]
  | b :: rest =>
    match lexeme b rest with
    | .error fault => .error ⟨fault, pos⟩
    | .ok (kind, behind) => do
      let raw := b :: rest.take behind
      have : (rest.drop behind).length < src.length := by
        have := congrArg List.length h
        simp only [List.length_drop, List.length_cons] at *
        omega
      let tokens ← tokenizeFrom (pos.advance raw) (rest.drop behind)
      return Token.ofLexeme kind raw pos :: tokens
termination_by src.length
decreasing_by assumption

/-- The tokens of a source text, ended by the end of input, or the first fault in it. -/
def tokenize (src : Text) : Except LexError (List Token) :=
  tokenizeFrom Pos.start src

end LessonLang
