import LessonLang.Text.Quoted
import LessonLang.Decimal.Numeral

/-!
Tokens, the words of a program.

* `Kind` lists the kinds of tokens: the end of input, twelve keyword phrases, operators and
  punctuation, and the three literals. Every other kind number is `Kind.other`.
* `Kind.all` is the order by which kinds are numbered; `Kind.name` is the name messages use.
* `Token` is a kind with its spelling and its place; `Token.shown` and `Token.description` render it
  for listings and for messages.
-/

namespace LessonLang

/-- A place in a source text. Lines and columns start at one, and columns count bytes. A position
that was never set has line zero. -/
structure Pos where
  offset : Int
  line : Int
  column : Int
  deriving DecidableEq, Repr, Inhabited

namespace Pos

/-- The place where every text begins. -/
def start : Pos := ⟨0, 1, 1⟩

/-- The position that was never set. -/
def unset : Pos := ⟨0, 0, 0⟩

/-- The place behind one byte. -/
def step (p : Pos) (b : UInt8) : Pos :=
  if b == 0x0a then ⟨p.offset + 1, p.line + 1, 1⟩ else ⟨p.offset + 1, p.line, p.column + 1⟩

/-- The place behind a stretch of text. -/
def advance (p : Pos) (t : Text) : Pos := t.foldl step p

/-- Line and column as messages show them. -/
def shown (p : Pos) : Text := Text.ofInt p.line ++ 0x3a :: Text.ofInt p.column

end Pos

/-- The kinds of tokens. -/
inductive Kind where
  | eof
  | programStart | programEnd | declare | print | input | ifWord | elseIf | elseWord | whileWord
  | forWord | function | returnWord
  | assign | equal | notEqual | less | lessEq | greater | greaterEq | plus | minus | star | slash
  | semicolon | comma | lparen | rparen | lbrace | rbrace
  | string | number | identifier
  | other (n : Nat)
  deriving DecidableEq, Repr, Inhabited

namespace Kind

/-- The kinds with a name, in the order of their numbers, each with that name. -/
def all : List (Kind × String) :=
  [(eof, "EOF"),
   (programStart, "NOMOSHKAR_DADA"), (programEnd, "JACHCHHI_DADA"), (declare, "DADA_EI_JE"),
   (print, "BOLO_DADA"), (input, "PORASHONA_DADA"), (ifWord, "JODI_DADA"),
   (elseIf, "NAHOLE_JODI_DADA"), (elseWord, "NAHOLE_DADA"), (whileWord, "JOTOKHON_DADA"),
   (forWord, "JOTO_BAR_DADA"), (function, "DADA_KAJ"), (returnWord, "PHIRIYE_DAO"),
   (assign, "EQUAL"), (equal, "EQUALITY"), (notEqual, "NEQ"), (less, "LT"), (lessEq, "LTE"),
   (greater, "GT"), (greaterEq, "GTE"), (plus, "PLUS"), (minus, "MINUS"), (star, "ASTERISK"),
   (slash, "SLASH"), (semicolon, "SEMICOLON"), (comma, "COMMA"), (lparen, "LPAREN"),
   (rparen, "RPAREN"), (lbrace, "LBRACE"), (rbrace, "RBRACE"),
   (string, "STRING"), (number, "NUMBER"), (identifier, "IDENTIFIER")]

/-- The kind with a given number. -/
def ofNumber (n : Nat) : Kind :=
  match all[n]? with
  | some (k, _) => k
  | none => other n

/-- The kind with a given name. -/
def ofName? (s : String) : Option Kind :=
  (all.find? fun entry => entry.2 == s).map (·.1)

/-- The name of a kind. A kind that has none is named by its number. -/
def name : Kind → Text
  | other n => utf8 "kind(" ++ Text.ofNat n ++ [0x29]
  | k => utf8 ((all.lookup k).getD "")

end Kind

/-- A token: its kind, its spelling (without the quotation marks of a string), the value of a number,
and the place of its first byte. -/
structure Token where
  kind : Kind
  text : Text
  number : Float
  pos : Pos
  deriving Inhabited

namespace Token

/-- The end of input at a place. -/
def eof (pos : Pos) : Token := ⟨.eof, [], 0, pos⟩

/-- The token as listings show it: its kind and its spelling. -/
def shown (t : Token) : Text :=
  match t.kind with
  | .eof => utf8 "EOF"
  | .string => utf8 "STRING " ++ t.text.quoted
  | k => k.name ++ 0x20 :: t.text

/-- The token as messages describe it. -/
def description (t : Token) : Text :=
  match t.kind with
  | .eof => utf8 "end of input"
  | .string | .number | .identifier => t.kind.name ++ 0x20 :: t.text.quoted
  | k => k.name

end Token

end LessonLang
