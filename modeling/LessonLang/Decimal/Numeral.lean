import LessonLang.Decimal.Shortest

/-!
Decimal numerals: how numbers are read and written.

* `Numeral.read?` reads an optional sign, digits with at most one point among or around them, and an
  optional exponent, and nothing else.
* `Layout` says where a format changes from positional to exponent form and how it writes exponents;
  `Layout.write` writes a decimal under it.
* `splitSign` splits a number into its sign and the bits of its magnitude, `numberOf` puts a sign on a
  magnitude.
-/

namespace LessonLang

/-- A decimal with a sign. -/
structure Numeral where
  negative : Bool
  magnitude : Decimal
  deriving DecidableEq, Repr

/-- The number with the given sign and magnitude bits. -/
def numberOf (negative : Bool) (bits : Nat) : Float :=
  Float.ofBits ((if negative then signBit + bits else bits).toUInt64)

/-- The sign and the magnitude bits of a number. -/
def splitSign (x : Float) : Bool × Nat :=
  let bits := x.toBits.toNat
  (signBit ≤ bits, bits % signBit)

namespace Numeral

/-- Takes an optional sign off a text. -/
def takeSign : Text → Bool × Text
  | 0x2b :: rest => (false, rest)
  | 0x2d :: rest => (true, rest)
  | t => (false, t)

/-- Reads what follows the digits: nothing, or an exponent with at least one digit. -/
def readExponent? : Text → Option Int
  | [] => some 0
  | b :: rest =>
    if b == 0x65 || b == 0x45 then
      let (negative, ds) := takeSign rest
      if !ds.isEmpty && ds.all isDigit then
        let n : Int := digitsValue ds
        some (if negative then -n else n)
      else none
    else none

/-- Reads a decimal numeral. It has at least one digit, in front of the point or behind it. -/
def read? (t : Text) : Option Numeral :=
  let (negative, t) := takeSign t
  let whole := t.takeWhile isDigit
  let t := t.dropWhile isDigit
  let (part, t) := match t with
    | 0x2e :: rest => (rest.takeWhile isDigit, rest.dropWhile isDigit)
    | t => ([], t)
  if whole.isEmpty && part.isEmpty then none
  else (readExponent? t).map fun e =>
    ⟨negative, ⟨digitsValue (whole ++ part), e - part.length⟩⟩

/-- The number nearest to a numeral. -/
def toFloat (n : Numeral) : Float := numberOf n.negative n.magnitude.nearest

/-- The number nearest to a numeral, if it is finite. -/
def toFinite? (n : Numeral) : Option Float :=
  if n.magnitude.nearest < infinityBits then some n.toFloat else none

end Numeral

/-- How a format writes decimals: positionally when the power of the first digit is from `least` to
`most`, and otherwise with an exponent. A negative exponent below ten is written with a leading zero
if `padNegative`; a positive one always is. -/
structure Layout where
  least : Int
  most : Int
  padNegative : Bool

namespace Layout

/-- Digits with a point behind the one that stands for the units. -/
def positional (d : Decimal) : Text :=
  let ds := d.digitText
  if 0 ≤ d.exponent then ds ++ List.replicate d.exponent.toNat 0x30
  else
    let places := (-d.exponent).toNat
    let padded := List.replicate (places + 1 - ds.length) 0x30 ++ ds
    padded.take (padded.length - places) ++ 0x2e :: padded.drop (padded.length - places)

/-- The sign and the digits of an exponent. -/
def exponentText (padNegative : Bool) (e : Int) : Text :=
  let ds := Text.ofNat e.natAbs
  let pad := ds.length < 2 && (0 ≤ e || padNegative)
  (if 0 ≤ e then 0x2b else 0x2d) :: if pad then 0x30 :: ds else ds

/-- One digit, a point and the other digits if there are any, and the exponent. -/
def scientific (padNegative : Bool) (d : Decimal) : Text :=
  let ds := d.digitText
  let tail := if ds.length ≤ 1 then [] else 0x2e :: ds.drop 1
  ds.take 1 ++ tail ++ 0x65 :: exponentText padNegative d.power

/-- A decimal as text. -/
def write (l : Layout) (d : Decimal) : Text :=
  if l.least ≤ d.power && d.power ≤ l.most then positional d else scientific l.padNegative d

end Layout

end LessonLang
