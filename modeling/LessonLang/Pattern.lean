import LessonLang.Text.Ranges

/-!
Patterns, the regular expressions that texts are searched with.

`Pattern` is the abstract form of an expression: single characters out of a set, places in the text,
sequences, alternatives and repetitions. Whether a place is there depends on the characters next to
it: `Edge.holds`.
-/

namespace LessonLang

/-- A place between two characters. -/
inductive Edge where
  | textStart | textEnd | lineStart | lineEnd | wordEdge | noWordEdge
  deriving DecidableEq, Repr

namespace Edge

/-- A character of a word. -/
def isWordChar (c : Char) : Bool := c.isAlphanum || c == '_'

/-- The place lies between these characters, where none stands for the ends of the text. -/
def holds (before after : Option Char) : Edge → Bool
  | textStart => before.isNone
  | textEnd => after.isNone
  | lineStart => before.isNone || before == some '\n'
  | lineEnd => after.isNone || after == some '\n'
  | wordEdge => before.any isWordChar != after.any isWordChar
  | noWordEdge => before.any isWordChar == after.any isWordChar

end Edge

/-- A regular expression. -/
inductive Pattern where
  | empty
  | edge (e : Edge)
  /-- one character of a set -/
  | oneOf (set : Ranges)
  | both (p q : Pattern)
  | either (p q : Pattern)
  /-- at least `least` and at most `most` times -/
  | repeated (p : Pattern) (least : Nat) (most : Option Nat)
  deriving DecidableEq, Repr

namespace Pattern

/-- One pattern behind the other, without parts that add nothing. -/
def followedBy : Pattern → Pattern → Pattern
  | empty, q => q
  | p, empty => p
  | p, q => both p q

end Pattern

end LessonLang
