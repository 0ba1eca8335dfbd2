import LessonLang.Decimal.Binary

/-!
The shortest decimal of a number.

* `Decimal` is the number `digits · 10^exponent`.
* `Decimal.shortest` gives, for a bit pattern, the decimal with the fewest digits among those that
  are nearer to its number than to every other; of two with the same count of digits it takes the one
  nearer to the number.

A decimal stands for a number exactly if it lies in the number's rounding interval, whose ends belong
to it when the significand is even. If any decimal with `n` digits lies in the interval, then so does
one of the two neighbours of the number on the grid of `n`-digit decimals, and these are all that
`Decimal.shortest` looks at.
-/

namespace LessonLang

/-- The number `digits · 10^exponent`. -/
structure Decimal where
  digits : Nat
  exponent : Int
  deriving DecidableEq, Repr

/-- The fraction `num / den` times a power of ten, on the side where the power is whole. -/
def scaleTen (num den : Nat) (e : Int) : Nat × Nat :=
  if 0 ≤ e then (num * Nat.pow 10 e.toNat, den) else (num, den * Nat.pow 10 (-e).toNat)

/-- The rounding interval of a number: quarters of a unit in the last place, over a common
denominator. -/
structure Interval where
  low : Nat
  value : Nat
  high : Nat
  den : Nat
  closed : Bool

namespace Interval

/-- The interval of the number with the given bits. Below a power of two the numbers lie twice as
dense, so the lower half is shorter there. -/
def ofBits (bits : Nat) : Interval :=
  let b := Binary.ofBits bits
  let m := b.significand
  let below := if m == leadingBit && leastExponent < b.exponent then 1 else 2
  let (one, den) := scaleTwo 1 1 (b.exponent - 2)
  ⟨(4 * m - below) * one, 4 * m * one, (4 * m + 2) * one, den, m % 2 == 0⟩

/-- The fraction `num / den` stands for the number of the interval. -/
def holds (i : Interval) (num den : Nat) : Bool :=
  let x := num * i.den
  if i.closed then i.low * den ≤ x && x ≤ i.high * den
  else i.low * den < x && x < i.high * den

end Interval

/-- Counts how often a fraction below one can be multiplied by ten before it reaches one. -/
def leadingZeros (num den : Nat) : (bound : Nat) → Nat
  | 0 => 0
  | bound + 1 => if den ≤ 10 * num then 0 else leadingZeros (10 * num) den bound + 1

/-- The place of the decimal point: `k` with `10^(k-1) ≤ num / den < 10^k`. -/
def pointPlace (num den : Nat) : Int :=
  if den ≤ num then (Nat.toDigits 10 (num / den)).length
  else -(leadingZeros num den 400 : Int)

namespace Decimal

/-- Drops trailing zeros into the exponent. -/
def stripZeros : (bound : Nat) → Decimal → Decimal
  | 0, d => d
  | bound + 1, d =>
    if d.digits != 0 && d.digits % 10 == 0 then stripZeros bound ⟨d.digits / 10, d.exponent + 1⟩
    else d

/-- The choice between the two neighbours of the number on the grid of multiples of `10^e`, if one of
them is in the interval. -/
def onGrid (i : Interval) (e : Int) : Option Decimal :=
  let (v, d) := scaleTen i.value i.den (-e)
  let down := v / d
  let up := down + 1
  let inside := fun n : Nat => let (p, q) := scaleTen n 1 e; i.holds p q
  if inside down then
    if inside up then some ⟨roundDiv v d, e⟩ else some ⟨down, e⟩
  else if inside up then some ⟨up, e⟩ else none

/-- The first grid with a hit, from `digits` significant digits upward. -/
def searchGrids (i : Interval) (place : Int) (digits : Nat) : (rounds : Nat) → Decimal
  | 0 => ⟨0, 0⟩
  | rounds + 1 =>
    match onGrid i (place - digits) with
    | some d => d
    | none => searchGrids i place (digits + 1) rounds

/-- The shortest decimal that stands for the number with the given bits, without trailing zeros.
Seventeen digits always suffice. -/
def shortest (bits : Nat) : Decimal :=
  if bits == 0 then ⟨0, 0⟩
  else
    let i := Interval.ofBits bits
    stripZeros 20 (searchGrids i (pointPlace i.value i.den) 1 17)

/-- The decimal digits of a decimal, most significant first. -/
def digitText (d : Decimal) : Text := Text.ofNat d.digits

/-- The power of ten of the first digit. Zero has power zero. -/
def power (d : Decimal) : Int :=
  if d.digits == 0 then 0 else d.exponent + d.digitText.length - 1

/-- The bits of the number nearest to a decimal. Powers of ten that are out of reach of every number
are decided without being computed. -/
def nearest (d : Decimal) : Nat :=
  if d.digits == 0 then 0
  else if 400 < d.power then infinityBits
  else if d.power < -400 then 0
  else
    let (num, den) := scaleTen d.digits 1 d.exponent
    nearestBits num den

end Decimal

end LessonLang
