import LessonLang.Text

/-!
Texts read as characters.

* `Text.first` reads one piece off the front of a text: a whole encoded character, or one stray byte
  where no character is encoded. The encoding is strict: shortest form only, no surrogates, nothing
  above U+10FFFF.
* `Text.pieces` cuts a whole text into such pieces, and `Text.isUtf8` says that none is stray.

Reading never fails and never consumes a byte that could start a character, so a damaged text
recovers at the next character.
-/

namespace LessonLang

/-- One step of reading a text: a character, or a byte that belongs to none. -/
inductive Piece where
  | char (c : Char)
  | stray (b : UInt8)
  deriving DecidableEq, Repr

namespace Piece

/-- The bytes the piece was read from. -/
def bytes : Piece → Text
  | char c => String.utf8EncodeChar c
  | stray b => [b]

/-- The code point of the piece. A stray byte counts as the replacement character. -/
def codePoint : Piece → Nat
  | char c => c.toNat
  | stray _ => 0xfffd

end Piece

namespace Text

/-- A continuation byte. -/
def isTail (b : UInt8) : Bool := 0x80 ≤ b && b ≤ 0xbf

/-- The payload of a continuation byte, added below the bits read so far. -/
def addTail (n : Nat) (b : UInt8) : Nat := n * 64 + (b.toNat - 0x80)

/-- The smallest second byte that may follow the first byte `b`: it rules out overlong forms. -/
def secondMin (b : UInt8) : UInt8 :=
  if b == 0xe0 then 0xa0 else if b == 0xf0 then 0x90 else 0x80

/-- The largest second byte that may follow the first byte `b`: it rules out surrogates and code
points above U+10FFFF. -/
def secondMax (b : UInt8) : UInt8 :=
  if b == 0xed then 0x9f else if b == 0xf4 then 0x8f else 0xbf

/-- Reads the piece that starts with the byte `b`, together with its width in bytes. -/
def first (b : UInt8) (rest : Text) : Piece × Nat :=
  if b < 0x80 then (.char (Char.ofNat b.toNat), 1)
  else if 0xc2 ≤ b && b ≤ 0xdf then
    match rest with
    | b1 :: _ =>
      if isTail b1 then (.char (Char.ofNat (addTail (b.toNat - 0xc0) b1)), 2) else (.stray b, 1)
    | _ => (.stray b, 1)
  else if 0xe0 ≤ b && b ≤ 0xef then
    match rest with
    | b1 :: b2 :: _ =>
      if secondMin b ≤ b1 && b1 ≤ secondMax b && isTail b2 then
        (.char (Char.ofNat (addTail (addTail (b.toNat - 0xe0) b1) b2)), 3)
      else (.stray b, 1)
    | _ => (.stray b, 1)
  else if 0xf0 ≤ b && b ≤ 0xf4 then
    match rest with
    | b1 :: b2 :: b3 :: _ =>
      if secondMin b ≤ b1 && b1 ≤ secondMax b && isTail b2 && isTail b3 then
        (.char (Char.ofNat (addTail (addTail (addTail (b.toNat - 0xf0) b1) b2) b3)), 4)
      else (.stray b, 1)
    | _ => (.stray b, 1)
  else (.stray b, 1)

/-- Cuts a text into pieces; `skip` bytes of it still belong to the piece read last. -/
def piecesFrom : (skip : Nat) → Text → List Piece
  | _, [] => []
  | skip + 1, _ :: rest => piecesFrom skip rest
  | 0, b :: rest => (first b rest).1 :: piecesFrom ((first b rest).2 - 1) rest

/-- A text as characters and stray bytes, in order. -/
def pieces (t : Text) : List Piece := piecesFrom 0 t

/-- The text that a sequence of pieces was read from. -/
def ofPieces (ps : List Piece) : Text := ps.flatMap Piece.bytes

/-- The text that spells a sequence of characters. -/
def ofChars (cs : List Char) : Text := cs.flatMap String.utf8EncodeChar

/-- A text without stray bytes. -/
def isUtf8 (t : Text) : Bool :=
  t.pieces.all fun
    | .char _ => true
    | .stray _ => false

/-- The characters of a text, if it has no stray byte. -/
def chars? (t : Text) : Option (List Char) :=
  t.pieces.mapM fun
    | .char c => some c
    | .stray _ => none

end Text

end LessonLang
