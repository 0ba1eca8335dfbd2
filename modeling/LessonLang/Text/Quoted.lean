import LessonLang.Text.Utf8
import LessonLang.Text.Printable

/-!
Quoted texts, as messages show them.

* `Text.quoted` puts a text between double quotation marks. Printable characters stand for
  themselves, the usual control characters have a letter of their own, and everything else is
  written as a code point or, for a stray byte, as two hexadecimal digits.
* `quotedChar` does the same for one character between single quotation marks.

A quoted text has no line break and is always UTF-8, whatever the text was.
-/

namespace LessonLang

/-- A hexadecimal digit, in lower case. -/
def hexDigit (n : Nat) : UInt8 :=
  if n < 10 then (0x30 + n).toUInt8 else (0x61 + (n - 10)).toUInt8

/-- The last `width` hexadecimal digits of `n`. -/
def hexDigits : (width : Nat) → (n : Nat) → Text
  | 0, _ => []
  | width + 1, n => hexDigits width (n / 16) ++ [hexDigit (n % 16)]

/-- The letter that names a control character after a backslash. -/
def escapeLetter? (cp : Nat) : Option Char :=
  [(0x07, 'a'), (0x08, 'b'), (0x0c, 'f'), (0x0a, 'n'), (0x0d, 'r'), (0x09, 't'), (0x0b, 'v')].lookup
    cp

/-- A code point inside quotation marks `mark`. -/
def quotedCodePoint (mark : UInt8) (c : Char) : Text :=
  if c.toNat == mark.toNat || c == '\\' then [0x5c, c.toNat.toUInt8]
  else if isPrintable c.toNat then String.utf8EncodeChar c
  else match escapeLetter? c.toNat with
    | some letter => [0x5c, Text.byte letter]
    | none =>
      if c.toNat < 0x20 || c.toNat == 0x7f then utf8 "\\x" ++ hexDigits 2 c.toNat
      else if c.toNat < 0x10000 then utf8 "\\u" ++ hexDigits 4 c.toNat
      else utf8 "\\U" ++ hexDigits 8 c.toNat

/-- A text between double quotation marks. -/
def Text.quoted (t : Text) : Text :=
  let inner := t.pieces.flatMap fun
    | .char c => quotedCodePoint 0x22 c
    | .stray b => utf8 "\\x" ++ hexDigits 2 b.toNat
  0x22 :: inner ++ [0x22]

/-- One character between single quotation marks. -/
def quotedChar (c : Char) : Text :=
  0x27 :: quotedCodePoint 0x27 c ++ [0x27]

end LessonLang
