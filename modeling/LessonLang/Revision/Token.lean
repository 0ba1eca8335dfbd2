import LessonLang.Text.Blank
import LessonLang.Text.Category

/-!
Revisions as tokens.

`RevisionToken.ofText` cuts a text into marks, words of letters, numbers, white space, control
characters and other single characters. A NUL character ends a revision like the end of the text does;
only the one that ends a word or a number is passed over with it.
-/

namespace LessonLang

/-- A token of a revision. -/
inductive RevisionToken where
  | finish
  | mark (c : Char)
  | word (cs : List Char)
  | number (cs : List Char)
  | blank (c : Char)
  | control (c : Char)
  | other (c : Char)
  deriving DecidableEq, Repr

namespace RevisionToken

/-- The characters that have a meaning of their own. -/
def marks : List Char := [':', '~', '^', '.', '/', '{', '}', '-', '@', '\\', '?', '*', '[', '!']

/-- A control character. -/
def isControl (c : Char) : Bool := c.toNat < 0x20 || (0x7f ≤ c.toNat && c.toNat < 0xa0)

/-- A letter. -/
def isLetter (c : Char) : Bool := isLetterCode c.toNat

/-- A digit or another number. -/
def isNumber (c : Char) : Bool := isNumberCode c.toNat

/-- What follows a word or a number. -/
def passNul : List Char → List Char
  | '\x00' :: rest => rest
  | cs => cs

theorem length_passNul_le (cs : List Char) : (passNul cs).length ≤ cs.length := by
  unfold passNul
  split <;> simp

/-- The tokens of a text. -/
def ofChars : List Char → List RevisionToken
  | [] => []
  | c :: rest =>
    if c == '\x00' then finish :: ofChars rest
    else if marks.contains c then mark c :: ofChars rest
    else if isBlank c.toNat then blank c :: ofChars rest
    else if isControl c then control c :: ofChars rest
    else if isLetter c then
      word (c :: rest.takeWhile isLetter) :: ofChars (passNul (rest.dropWhile isLetter))
    else if isNumber c then
      number (c :: rest.takeWhile isNumber) :: ofChars (passNul (rest.dropWhile isNumber))
    else other c :: ofChars rest
termination_by cs => cs.length
decreasing_by
  all_goals simp only [List.length_cons]
  all_goals first
    | omega
    | exact Nat.lt_succ_of_le
        (Nat.le_trans (length_passNul_le _) (List.dropWhile_suffix _).sublist.length_le)

/-- The tokens of a text, in which a stray byte is the replacement character. -/
def ofText (t : Text) : List RevisionToken :=
  ofChars (t.pieces.map fun p => Char.ofNat p.codePoint)

/-- The characters of a token. -/
def chars : RevisionToken → List Char
  | finish => []
  | mark c | blank c | control c | other c => [c]
  | word cs | number cs => cs

/-- The text of a token. -/
def text (t : RevisionToken) : Text := Text.ofChars t.chars

/-- The word is spelled `s`. -/
def isWord (t : RevisionToken) (s : String) : Bool := t == word s.toList

/-- The first token of a list, which goes on with the end of the revision, and the others. -/
def take : List RevisionToken → RevisionToken × List RevisionToken
  | [] => (finish, [])
  | t :: rest => (t, rest)

end RevisionToken

end LessonLang
