import LessonLang.Text.Utf8

/-!
White space.

* `isBlank` is the Unicode property White_Space, as a table of ranges.
* `Text.trim` removes the white space around a text. Characters count whole, and a stray byte is no
  white space.
-/

namespace LessonLang

/-- The ranges of the Unicode property White_Space. -/
def blankRanges : List (Nat × Nat) :=
  [(0x09, 0x0d), (0x20, 0x20), (0x85, 0x85), (0xa0, 0xa0), (0x1680, 0x1680), (0x2000, 0x200a),
   (0x2028, 0x2029), (0x202f, 0x202f), (0x205f, 0x205f), (0x3000, 0x3000)]

/-- White space, by code point. -/
def isBlank (cp : Nat) : Bool :=
  blankRanges.any fun r => r.1 ≤ cp && cp ≤ r.2

/-- A piece of white space. -/
def Piece.isBlank (p : Piece) : Bool := LessonLang.isBlank p.codePoint

namespace Text

/-- A text without the white space around it. -/
def trim (t : Text) : Text :=
  ofPieces ((t.pieces.dropWhile Piece.isBlank).reverse.dropWhile Piece.isBlank).reverse

end Text

end LessonLang
