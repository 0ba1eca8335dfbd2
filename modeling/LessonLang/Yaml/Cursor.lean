import LessonLang.Yaml.Source

/-!
Reading YAML text character by character.

* The classes `isBreak` and `isGap` are line breaks and the two separators inside a line.
* `Cursor` is a place in a text: the characters that are left, the line and the column they start at,
  both counted from zero, and how far the text has been looked at.
* `Cursor.need` looks ahead. It takes in further blocks of the text and fails if one of them cannot be
  read; so a fault only counts if the reading comes near it.
* `Cursor.skip` goes over one character of a line and `Cursor.skipBreak` over a line break.
-/

namespace LessonLang

namespace Yaml

/-- A line break. -/
def isBreak (c : Char) : Bool :=
  c == '\n' || c == '\r' || c == '\x85' || c == '\u2028' || c == '\u2029'

/-- A line break that is a single byte in UTF-8. -/
def isShortBreak (c : Char) : Bool := c == '\n' || c == '\r'

/-- A space or a tab. -/
def isGap (c : Char) : Bool := c == ' ' || c == '\t'

/-- A character of a name: a letter, a digit, a low line or a dash. -/
def isNameChar (c : Char) : Bool := c.isAlphanum || c == '_' || c == '-'

/-- What may follow a line: a break or the end of the text. -/
def endsLine : Option Char → Bool
  | none => true
  | some c => isBreak c

/-- What may follow a word: a separator, a break or the end of the text. -/
def endsWord : Option Char → Bool
  | none => true
  | some c => isGap c || isBreak c

/-- What a line break stands for in a scalar: the usual ones are a line feed. -/
def breakChar (c : Char) : Char := if c == '\u2028' || c == '\u2029' then c else '\n'

/-- What the breaks between two words of a folded text stand for: one line feed is a space, and of
several the first is dropped. -/
def foldBreaks : List Char → List Char
  | '\n' :: [] => [' ']
  | '\n' :: more => more
  | breaks => breaks

/-- The mark that tells the encoding of a text. -/
def encodingMark : Char := '\ufeff'

/-- A place in a text. -/
structure Cursor where
  /-- all characters that are left -/
  rest : List Char
  /-- how many of them have been looked at, with an end of the text for each one too many -/
  window : Nat := 0
  /-- the sizes of the blocks that have not been looked at -/
  blocks : List Nat
  /-- the text ends properly behind the last block -/
  sound : Bool
  /-- the character that came next when a block was taken in last -/
  origin : Option Char := none
  index : Nat := 0
  line : Nat := 0
  column : Nat := 0
  /-- only separators stand between the last line break and this place -/
  broken : Bool := false

namespace Cursor

/-- The start of a text. -/
def start (s : Source) : Cursor := { rest := s.chars, blocks := s.blocks, sound := s.sound }

/-- Takes in blocks until `n` characters have been looked at, of which `window` are known. At the end
of the text, the end itself counts as one more. -/
def fill (n : Nat) (sound : Bool) : (window : Nat) → (blocks : List Nat) → Option (Nat × List Nat)
  | window, [] =>
    if n ≤ window then some (window, []) else if sound then some (window + 1, []) else none
  | window, b :: blocks =>
    if n ≤ window then some (window, b :: blocks) else fill n sound (window + b) blocks

/-- Looks at the next `n` characters. -/
def need (c : Cursor) (n : Nat) : Option Cursor :=
  if n ≤ c.window then some c
  else (fill n c.sound c.window c.blocks).map fun (window, blocks) =>
    { c with window, blocks, origin := c.rest.head? }

/-- The next character. -/
def peek (c : Cursor) : Option Char := c.rest.head?

/-- The character after the next `n`. -/
def peekAt (c : Cursor) (n : Nat) : Option Char := c.rest[n]?

/-- The next character is `x`. -/
def sees (c : Cursor) (x : Char) : Bool := c.rest.head? == some x

/-- Goes over one character of a line. -/
def skip (c : Cursor) : Cursor :=
  { c with
    rest := c.rest.drop 1, window := c.window - 1, index := c.index + 1, column := c.column + 1
    broken := c.broken && c.peek.any isGap }

/-- Goes over a line break of `width` characters. -/
def newLine (c : Cursor) (width : Nat) : Cursor :=
  { c with
    rest := c.rest.drop width, window := c.window - width, index := c.index + width
    line := c.line + 1, column := 0, broken := true }

/-- Goes over one line break, if there is one. -/
def skipBreak (c : Cursor) : Cursor :=
  match c.rest with
  | '\r' :: '\n' :: _ => c.newLine 2
  | x :: _ => if isBreak x then c.newLine 1 else c
  | [] => c

/-- Goes over the characters that satisfy `p`, and looks at the one behind each. The list repeats what
is left of the text. -/
def skipFrom (p : Char → Bool) : List Char → Cursor → Option Cursor
  | [], c => some c
  | x :: rest, c => if p x then (c.skip.need 1).bind (skipFrom p rest) else some c

/-- Goes over the characters that satisfy `p`. -/
def skipWhile (c : Cursor) (p : Char → Bool) : Option Cursor :=
  (c.need 1).bind fun c => skipFrom p c.rest c

/-- Goes to the end of the line. -/
def skipLine (c : Cursor) : Option Cursor := c.skipWhile fun x => !isBreak x

/-- Reads the characters that satisfy `p`. -/
def takeWhile (c : Cursor) (p : Char → Bool) : Option (List Char × Cursor) :=
  (c.skipWhile p).map fun d => (c.rest.takeWhile p, d)

/-- Goes over the rest of a line that may hold a comment but nothing else, and over its break. -/
def endLine (c : Cursor) : Option Cursor := do
  let c ← c.skipWhile isGap
  let c ← if c.sees '#' then c.skipLine else some c
  if !endsLine c.peek then none
  else if c.rest.isEmpty then some c
  else (c.need 2).map skipBreak

/-- A line that starts with three times `x` and nothing attached: a document marker. -/
def seesMarker (c : Cursor) (x : Char) : Bool :=
  c.column == 0 && c.rest.take 3 == [x, x, x] && endsWord (c.peekAt 3)

/-- A document marker of either kind. -/
def seesAnyMarker (c : Cursor) : Bool := c.seesMarker '-' || c.seesMarker '.'

end Cursor

end Yaml

end LessonLang
