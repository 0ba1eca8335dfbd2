/-!
Texts are byte sequences.

* `Text` is the type of every piece of text in the library: source files, names, string values and
  messages. A text is meant to be UTF-8 but need not be: a stray byte is kept as it is, and
  positions count bytes.
* `utf8` gives the bytes of a string, which is how fixed wording enters a text.
* `Text.split`, `Text.join` and the two prefix and suffix tests are the few list operations that
  paths, options and messages need.
-/

namespace LessonLang

/-- A text is any sequence of bytes; two texts are ordered byte by byte. -/
abbrev Text := List UInt8

/-- The bytes that spell a string. -/
def utf8 (s : String) : Text :=
  s.toList.flatMap String.utf8EncodeChar

namespace Text

/-- The byte of an ASCII character. -/
def byte (c : Char) : UInt8 := c.val.toUInt8

/-- The decimal numeral of a natural number. -/
def ofNat (n : Nat) : Text := (Nat.toDigits 10 n).map byte

/-- The decimal numeral of an integer, with a minus sign in front of a negative one. -/
def ofInt : Int → Text
  | .ofNat n => ofNat n
  | .negSucc n => byte '-' :: ofNat (n + 1)

/-- `startsWith t p` says that `p` is the beginning of `t`. -/
def startsWith (t p : Text) : Bool := p.isPrefixOf t

/-- `endsWith t p` says that `p` is the end of `t`. -/
def endsWith (t p : Text) : Bool := p.isSuffixOf t

/-- The pieces of a text between the occurrences of one byte: always one more than those. -/
def split (sep : UInt8) : Text → List Text
  | [] => [[]]
  | b :: rest =>
    match split sep rest with
    | [] => [[b]]
    | piece :: pieces => if b == sep then [] :: piece :: pieces else (b :: piece) :: pieces

/-- A text occurs in another. -/
def occursIn (p : Text) : Text → Bool
  | [] => p.isEmpty
  | b :: rest => p.isPrefixOf (b :: rest) || occursIn p rest

/-- The part in front of the first occurrence of a byte, and the part behind it if there is one. -/
def cut (sep : UInt8) (t : Text) : Text × Option Text :=
  match t.span (· != sep) with
  | (before, []) => (before, none)
  | (before, _ :: after) => (before, some after)

/-- The texts of a list one after the other, with `sep` between neighbours. -/
def join (sep : Text) : List Text → Text
  | [] => []
  | [t] => t
  | t :: ts => t ++ sep ++ join sep ts

/-- Writes `old` bytes as `new` bytes and keeps all others. -/
def replace (old new : UInt8) (t : Text) : Text :=
  t.map fun b => if b == old then new else b

end Text

/-- An ASCII decimal digit. -/
def isDigit (b : UInt8) : Bool := 0x30 ≤ b && b ≤ 0x39

/-- An ASCII letter. -/
def isLetter (b : UInt8) : Bool := (0x61 ≤ b && b ≤ 0x7a) || (0x41 ≤ b && b ≤ 0x5a)

/-- The value of a hexadecimal digit. -/
def hexValue? (b : UInt8) : Option Nat :=
  if isDigit b then some (b.toNat - 0x30)
  else if 0x61 ≤ b && b ≤ 0x66 then some (b.toNat - 0x57)
  else if 0x41 ≤ b && b ≤ 0x46 then some (b.toNat - 0x37)
  else none

/-- The value of a run of decimal digits, most significant first. -/
def digitsValue (ds : Text) : Nat :=
  ds.foldl (fun n b => 10 * n + (b.toNat - 0x30)) 0

end LessonLang
