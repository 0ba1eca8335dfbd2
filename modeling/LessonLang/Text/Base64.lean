import LessonLang.Text

/-!
Bytes written with sixty-four letters.

* `Base64.encode` writes three bytes as four letters and fills the last group up with signs of
  equality.
* `Base64.decode?` reads them back. Line breaks between letters are ignored; anything else that is not
  written by `encode` is refused, except that unused bits need not be zero.
-/

namespace LessonLang

namespace Base64

/-- The letter for a number below sixty-four. -/
def letter (n : Nat) : UInt8 :=
  if n < 26 then (0x41 + n).toUInt8
  else if n < 52 then (0x61 + (n - 26)).toUInt8
  else if n < 62 then (0x30 + (n - 52)).toUInt8
  else if n == 62 then 0x2b
  else 0x2f

/-- The number that a letter stands for. -/
def value? (b : UInt8) : Option Nat :=
  if 0x41 ≤ b && b ≤ 0x5a then some (b.toNat - 0x41)
  else if 0x61 ≤ b && b ≤ 0x7a then some (b.toNat - 0x61 + 26)
  else if isDigit b then some (b.toNat - 0x30 + 52)
  else if b == 0x2b then some 62
  else if b == 0x2f then some 63
  else none

/-- The letters for a sequence of bytes. -/
def encode : Text → Text
  | [] => []
  | [a] => [letter (a.toNat / 4), letter (a.toNat % 4 * 16), 0x3d, 0x3d]
  | [a, b] =>
    [letter (a.toNat / 4), letter (a.toNat % 4 * 16 + b.toNat / 16), letter (b.toNat % 16 * 4), 0x3d]
  | a :: b :: c :: rest =>
    letter (a.toNat / 4) :: letter (a.toNat % 4 * 16 + b.toNat / 16)
      :: letter (b.toNat % 16 * 4 + c.toNat / 64) :: letter (c.toNat % 64) :: encode rest

/-- The bytes that groups of four letters stand for. -/
def decodeGroups? : Text → Option Text
  | [] => some []
  | [a, b, 0x3d, 0x3d] =>
    match value? a, value? b with
    | some x, some y => some [(x * 4 + y / 16).toUInt8]
    | _, _ => none
  | [a, b, c, 0x3d] =>
    match value? a, value? b, value? c with
    | some x, some y, some z => some [(x * 4 + y / 16).toUInt8, (y % 16 * 16 + z / 4).toUInt8]
    | _, _, _ => none
  | a :: b :: c :: d :: rest =>
    match value? a, value? b, value? c, value? d, decodeGroups? rest with
    | some x, some y, some z, some w, some more =>
      some ((x * 4 + y / 16).toUInt8 :: (y % 16 * 16 + z / 4).toUInt8
        :: (z % 4 * 64 + w).toUInt8 :: more)
    | _, _, _, _, _ => none
  | _ => none

/-- The bytes that letters stand for. -/
def decode? (t : Text) : Option Text := decodeGroups? (t.filter fun b => b != 0x0a && b != 0x0d)

end Base64

end LessonLang
