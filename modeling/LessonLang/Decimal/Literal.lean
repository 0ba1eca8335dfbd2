import LessonLang.Decimal.Numeral

/-!
Number literals: everything that the general reader of numbers takes.

* `Literal` is what a literal stands for: a decimal or a hexadecimal number, infinity, or not-a-number.
* `Literal.read?` reads a whole text as a literal. Letter case never matters. Underscores may stand
  between digits and behind the prefix of a hexadecimal number, which always has an exponent.
* `Literal.toFloat?` is the nearest number of a literal; one that is too large for a finite number is
  an error, unlike infinity itself.
-/

namespace LessonLang

/-- A number literal. A hexadecimal number is `mantissa · 2^exponent`. -/
inductive Literal where
  | decimal (n : Numeral)
  | hexadecimal (negative : Bool) (mantissa : Nat) (exponent : Int)
  | infinity (negative : Bool)
  | notANumber
  deriving DecidableEq, Repr

namespace Literal

/-- A letter in lower case. -/
def lowerCase (b : UInt8) : UInt8 := if 0x41 ≤ b && b ≤ 0x5a then b + 0x20 else b

/-- The underscore, which stands between digits and counts for nothing. -/
def isSeparator (b : UInt8) : Bool := b == 0x5f

/-- A hexadecimal digit. -/
def isHexDigit (b : UInt8) : Bool := (hexValue? b).isSome

/-- Every underscore stands behind a digit, or at the front of digits that have a prefix, and in front
of a digit. -/
def underscoresFit (isPlace : UInt8 → Bool) (behind : Bool) : Text → Bool
  | [] => true
  | b :: rest =>
    if isSeparator b then behind && rest.head?.any isPlace && underscoresFit isPlace false rest
    else underscoresFit isPlace (isPlace b) rest

/-- The value of a run of hexadecimal digits, most significant first. -/
def hexDigitsValue (ds : Text) : Nat :=
  ds.foldl (fun n b => 16 * n + (hexValue? b).getD 0) 0

/-- The binary exponent of a hexadecimal number, which has at least one digit. -/
def readBinaryExponent? : Text → Option Int
  | [] => none
  | b :: rest =>
    let (negative, ds) := Numeral.takeSign rest
    if lowerCase b == 0x70 && !ds.isEmpty && ds.all isDigit then
      let n : Int := digitsValue ds
      some (if negative then -n else n)
    else none

/-- Reads a hexadecimal number behind its prefix. -/
def readHexadecimal? (negative : Bool) (t : Text) : Option Literal :=
  let whole := t.takeWhile isHexDigit
  let (part, t) := match t.dropWhile isHexDigit with
    | 0x2e :: rest => (rest.takeWhile isHexDigit, rest.dropWhile isHexDigit)
    | t => ([], t)
  if whole.isEmpty && part.isEmpty then none
  else (readBinaryExponent? t).map fun e =>
    .hexadecimal negative (hexDigitsValue (whole ++ part)) (e - 4 * part.length)

/-- Reads a text as a number in digits: hexadecimal behind `0x`, and otherwise decimal. -/
def readDigits? (t : Text) : Option Literal :=
  let (negative, body) := Numeral.takeSign t
  match body with
  | 0x30 :: 0x78 :: rest | 0x30 :: 0x58 :: rest =>
    if underscoresFit isHexDigit true rest then readHexadecimal? negative (rest.filter (!isSeparator ·))
    else none
  | _ =>
    if underscoresFit isDigit false body then (Numeral.read? (t.filter (!isSeparator ·))).map .decimal
    else none

/-- Reads a whole text as a literal. Infinity may have a sign, not-a-number has none. -/
def read? (t : Text) : Option Literal :=
  let (negative, body) := Numeral.takeSign t
  let name := body.map lowerCase
  if name == utf8 "inf" || name == utf8 "infinity" then some (.infinity negative)
  else if t.map lowerCase == utf8 "nan" then some .notANumber
  else readDigits? t

/-- The bits of the number nearest to `mantissa · 2^exponent`. Powers of two that are out of reach of
every number are decided without being computed. -/
def nearestBinary (mantissa : Nat) (exponent : Int) : Nat :=
  if mantissa == 0 then 0
  else if 1100 < exponent + mantissa.log2 then infinityBits
  else if exponent + mantissa.log2 < -1200 then 0
  else
    let (num, den) := scaleTwo mantissa 1 exponent
    nearestBits num den

/-- The number nearest to a literal. A number in digits must be in range. -/
def toFloat? : Literal → Option Float
  | decimal n => n.toFinite?
  | hexadecimal negative mantissa exponent =>
    let bits := nearestBinary mantissa exponent
    if bits < infinityBits then some (numberOf negative bits) else none
  | infinity negative => some (numberOf negative infinityBits)
  | notANumber => some (0 / 0)

end Literal

end LessonLang
