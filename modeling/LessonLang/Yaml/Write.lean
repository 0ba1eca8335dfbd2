import LessonLang.Text.Base64
import LessonLang.Text.Quoted
import LessonLang.Yaml.Cursor
import LessonLang.Yaml.Tag

/-!
Texts as YAML scalars.

* `Style.of` chooses how a text is written: as it is where that reads back as the same text, otherwise
  between quotation marks, and on lines of its own if it has line breaks.
* `writeScalar` writes it so, behind a colon. A text that is not UTF-8 is written as encoded bytes.
-/

namespace LessonLang

namespace Yaml

/-! ### What a text contains -/

/-- A character that can be written as it is. Characters outside the basic plane cannot. -/
def isShowable (c : Char) : Bool :=
  c == '\n' || (0x20 ≤ c.toNat && c.toNat ≤ 0x7e)
    || (0xa0 ≤ c.toNat && c.toNat ≤ 0xfffd && c != encodingMark)

/-- A character that has to be written as an escape. -/
def isSpecial (c : Char) : Bool := c != '\t' && !isShowable c

/-- The end of the text or a separator. -/
def gapOrEnd : Option Char → Bool
  | none => true
  | some c => isGap c

/-- An indicator at the start of a text. -/
def startsWithIndicator : List Char → Bool
  | [] => false
  | c :: rest =>
    "#,[]\x7b\x7d&*!|>'\"%@`".toList.contains c
      || ((c == '?' || c == ':' || c == '-') && gapOrEnd rest.head?)
      || (c :: rest).take 3 == ['-', '-', '-'] || (c :: rest).take 3 == ['.', '.', '.']

/-- A colon in front of a separator, or a number sign behind one. `previous` is the character in
front. -/
def hasInnerIndicator (previous : Char) : List Char → Bool
  | [] => false
  | c :: rest =>
    (c == ':' && gapOrEnd rest.head?)
      || (c == '#' && (isGap previous || isBreak previous || previous == '\x00'))
      || hasInnerIndicator c rest

/-- Some character that satisfies `p` stands in front of one that satisfies `q`. -/
def hasPair (p q : Char → Bool) : List Char → Bool
  | a :: b :: rest => (p a && q b) || hasPair p q (b :: rest)
  | _ => false

/-- A space. -/
def isSpace (c : Char) : Bool := c == ' '

/-- A space or a break at the start or the end of a text. -/
def hasLooseEnd (cs : List Char) : Bool :=
  cs.head?.any (fun c => isSpace c || isBreak c) || cs.getLast?.any fun c => isSpace c || isBreak c

/-- A space in front of a break. -/
def hasSpaceBreak (cs : List Char) : Bool := hasPair isSpace isBreak cs

/-- A break in front of a space. -/
def hasBreakSpace (cs : List Char) : Bool := hasPair isBreak isSpace cs

/-- Single quotation marks can hold the text. -/
def singleAllowed (cs : List Char) : Bool :=
  !(hasBreakSpace cs || hasSpaceBreak cs || cs.any fun c => c == '\t' || isSpecial c)

/-- The text can be written without quotation marks. -/
def plainAllowed (cs : List Char) : Bool :=
  singleAllowed cs
    && !(hasLooseEnd cs || cs.any isBreak || startsWithIndicator cs
      || cs.head?.any fun c => hasInnerIndicator c (cs.drop 1))

/-- The text can be written as a literal block. -/
def blockAllowed (cs : List Char) : Bool :=
  !(cs.getLast?.any isSpace || hasSpaceBreak cs || cs.any isSpecial)

/-! ### What a text reads as -/

/-- The words that older readers take for truth values. -/
def oldBooleans : List String :=
  ["y", "Y", "yes", "Yes", "YES", "on", "On", "ON", "n", "N", "no", "No", "NO", "off", "Off", "OFF"]

/-- What may follow the groups of a number to the base sixty: nothing, or a fraction. -/
def endsSexagesimal : Text → Bool
  | [] => true
  | b :: rest => b == 0x2e && rest.all fun b => isDigit b || b == 0x5f

/-- Groups of a number to the base sixty, each a colon and one or two digits. -/
def isSexagesimalTail : (fuel : Nat) → Text → Bool
  | 0, _ => false
  | fuel + 1, t =>
    match t with
    | 0x3a :: a :: b :: rest =>
      if 0x30 ≤ a && a ≤ 0x35 && isDigit b then
        endsSexagesimal rest || isSexagesimalTail fuel rest
      else isDigit a && (endsSexagesimal (b :: rest) || isSexagesimalTail fuel (b :: rest))
    | [0x3a, a] => isDigit a
    | _ => false

/-- A number to the base sixty, which older readers know. -/
def isSexagesimal (t : Text) : Bool :=
  match (Numeral.takeSign t).2 with
  | b :: rest =>
    isDigit b
      && isSexagesimalTail (t.length + 1) (rest.dropWhile fun b => isDigit b || b == 0x5f)
  | [] => false

/-- The text is read back as a text when it stands without quotation marks. -/
def readsAsText (t : Text) : Bool :=
  Tag.natural t == Tag.str && !isSexagesimal t && !(oldBooleans.any fun w => utf8 w == t)

/-! ### Styles -/

/-- The ways to write a text. -/
inductive Style where
  | plain | single | double | literal
  deriving DecidableEq, Repr

/-- The style for a text. `free` says that it would be read back as a text. -/
def Style.of (free : Bool) (cs : List Char) : Style :=
  if cs.contains '\n' then if blockAllowed cs then literal else double
  else if !free then double
  else if plainAllowed cs then plain
  else if singleAllowed cs then single
  else double

/-- Spaces. -/
def spaces (n : Nat) : Text := List.replicate n 0x20

/-- The letter for a character behind a backslash. -/
def escapeLetter? (c : Char) : Option Char :=
  [('\x00', '0'), ('\x07', 'a'), ('\x08', 'b'), ('\t', 't'), ('\n', 'n'), ('\x0b', 'v'),
   ('\x0c', 'f'), ('\r', 'r'), ('\x1b', 'e'), ('"', '"'), ('\\', '\\'), ('\x85', 'N'),
   ('\xa0', '_'), ('\u2028', 'L'), ('\u2029', 'P')].lookup c

/-- A hexadecimal digit, in upper case. -/
def upperHexDigit (b : UInt8) : UInt8 := if 0x61 ≤ b then b - 0x20 else b

/-- A character between double quotation marks; with `all` set, every one is written as an escape. -/
def doubleQuotedChar (all : Bool) (c : Char) : Text :=
  if !all && isShowable c && !isBreak c && c != '"' && c != '\\' then String.utf8EncodeChar c
  else match escapeLetter? c with
    | some letter => [0x5c, Text.byte letter]
    | none =>
      let n := c.toNat
      let digits (width : Nat) : Text := (hexDigits width n).map upperHexDigit
      if n ≤ 0xff then utf8 "\\x" ++ digits 2
      else if n ≤ 0xffff then utf8 "\\u" ++ digits 4
      else utf8 "\\U" ++ digits 8

/-- Characters between double quotation marks. Behind the mark for an encoding nothing is written as it
is. -/
def doubleQuoted (cs : List Char) : Text :=
  cs.flatMap (doubleQuotedChar (cs.head? == some encodingMark))

/-- Characters between single quotation marks. A line that follows a break is indented. -/
def singleQuoted (indent : Nat) : (fresh : Bool) → List Char → Text
  | _, [] => []
  | fresh, c :: rest =>
    if isBreak c then String.utf8EncodeChar c ++ singleQuoted indent true rest
    else
      (if fresh then spaces indent else []) ++ (if c == '\'' then [0x27] else [])
        ++ String.utf8EncodeChar c ++ singleQuoted indent false rest

/-- The lines of a literal block, each behind a line break and indentation. -/
def literalLines (indent : Nat) : (fresh : Bool) → List Char → Text
  | _, [] => []
  | fresh, c :: rest =>
    if isBreak c then String.utf8EncodeChar c ++ literalLines indent true rest
    else
      (if fresh then spaces indent else []) ++ String.utf8EncodeChar c
        ++ literalLines indent false rest

/-- The marks of a literal block: for an indentation that cannot be seen, and for breaks at the end
other than a single one. -/
def literalMarks (cs : List Char) : Text :=
  let indentation : Text := if cs.head?.any fun c => isSpace c || isBreak c then [0x32] else []
  let chomping : Text := match cs.reverse with
    | a :: b :: _ => if !isBreak a then [0x2d] else if isBreak b then [0x2b] else []
    | [a] => if !isBreak a then [0x2d] else [0x2b]
    | [] => [0x2d]
  indentation ++ chomping

/-- A text in a style, with lines indented by `indent`. -/
def Style.write (indent : Nat) (cs : List Char) : Style → Text
  | plain => Text.ofChars cs
  | single => 0x27 :: singleQuoted indent false cs ++ [0x27]
  | double => 0x22 :: doubleQuoted cs ++ [0x22]
  | literal => 0x7c :: literalMarks cs ++ 0x0a :: literalLines indent true cs

/-- Cuts a text into lines of seventy bytes. -/
def chunks (fuel : Nat) (t : Text) : Text :=
  match fuel with
  | 0 => t
  | fuel + 1 => if t.isEmpty then [] else t.take 70 ++ 0x0a :: chunks fuel (t.drop 70)

/-- Encoded bytes: on one line if they fit. -/
def bytesText (t : Text) : Text :=
  let letters := Base64.encode t
  if letters.length < 70 then letters else chunks letters.length letters

/-- A text as the value of a key. Further lines are indented by `indent`. -/
def writeScalar (indent : Nat) (t : Text) : Text :=
  match t.chars? with
  | some cs => (Style.of (readsAsText t) cs).write indent cs
  | none =>
    let cs := (bytesText t).map fun b => Char.ofNat b.toNat
    utf8 "!!binary " ++ (Style.of true cs).write indent cs

/-- A key and its value on a line of its own. A literal block may end with a line break already. -/
def writeField (indent : Nat) (key : String) (value : Text) : Text :=
  let line := utf8 key ++ utf8 ": " ++ writeScalar indent value
  if line.getLast? == some 0x0a then line else line ++ [0x0a]

end Yaml

end LessonLang
