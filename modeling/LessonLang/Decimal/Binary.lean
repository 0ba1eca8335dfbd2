import LessonLang.Text

/-!
Numbers as bits.

A finite number is `m · 2^q` with `m < 2^53`, and its bits list the exponent above the significand,
so that counting the bit patterns upward counts the numbers upward.

* `Binary` is a finite, unsigned number in the form `m · 2^q`; `Binary.ofBits` reads it off a bit
  pattern.
* `nearestBits` gives the bit pattern of the number nearest to a fraction; a fraction half-way
  between two numbers goes to the one with the even significand, and one beyond the largest number
  goes to infinity.
-/

namespace LessonLang

/-- The finite number `significand · 2^exponent`. -/
structure Binary where
  significand : Nat
  exponent : Int
  deriving DecidableEq, Repr

/-- The bit pattern of positive infinity, the first that is no finite number. -/
def infinityBits : Nat := 0x7ff0000000000000

/-- The bit that carries the sign. -/
def signBit : Nat := 0x8000000000000000

/-- The leading bit of a significand, `2^52`: the numbers with less than that are the smallest. -/
def leadingBit : Nat := 0x10000000000000

/-- The exponent of the smallest numbers. -/
def leastExponent : Int := -1074

namespace Binary

/-- The number with the given bits, which are below `infinityBits`. -/
def ofBits (bits : Nat) : Binary :=
  if bits < leadingBit then ⟨bits, leastExponent⟩
  else ⟨bits % leadingBit + leadingBit, bits / leadingBit - 1 + leastExponent⟩

/-- A number is whole if its exponent drops no bit below the units. -/
def isWhole (b : Binary) : Bool :=
  0 ≤ b.exponent || b.significand % Nat.pow 2 (-b.exponent).toNat == 0

end Binary

/-- The quotient of two natural numbers, rounded to the nearest, halves to even. -/
def roundDiv (num den : Nat) : Nat :=
  let q := num / den
  let r := num % den
  if 2 * r < den then q
  else if den < 2 * r then q + 1
  else if q % 2 == 0 then q else q + 1

/-- Multiplies a fraction by a power of two, on the side where the power is whole. -/
def scaleTwo (num den : Nat) (e : Int) : Nat × Nat :=
  if 0 ≤ e then (num * Nat.pow 2 e.toNat, den) else (num, den * Nat.pow 2 (-e).toNat)

/-- The exponent at which `num / den` has 53 significant bits, but never below the least. -/
def fitExponent (num den : Nat) : Int :=
  let q : Int := Nat.log2 num - Nat.log2 den - 53
  let (n, d) := scaleTwo num den (-(q + 53))
  max (if d ≤ n then q + 1 else q) leastExponent

/-- The bits of the number nearest to `num / den`. -/
def nearestBits (num den : Nat) : Nat :=
  if num == 0 then 0
  else
    let q := fitExponent num den
    let (n, d) := scaleTwo num den (-q)
    min ((q - leastExponent).toNat * leadingBit + roundDiv n d) infinityBits

end LessonLang
