import LessonLang.Proofs.Decimal.Rounding

/-!
The values that round to a number.

* `Binary.IsNearest b r` says that the value `r` lies in the rounding interval of the number `b`. Below a
  power of two the numbers lie twice as dense, so the lower half of the interval is shorter there
  (`Binary.reach`), and its ends belong to it if the significand is even.
* `Binary.Regular` has what the parts of a number with given bits satisfy (`Binary.regular_ofBits`).
* `nearestBits_eq_of_isNearest`, `Decimal.nearest_eq_of_isNearest`: a fraction and a decimal in the rounding
  interval of a number are rounded to it.
-/

namespace LessonLang

namespace Binary

/-- The value of a number. -/
def toRat (b : Binary) : ℚ := b.significand * 2 ^ b.exponent

/-- The lower half of the rounding interval, in units of the last place. -/
def reach (b : Binary) : ℚ :=
  if b.significand = leadingBit ∧ leastExponent < b.exponent then 1 / 4 else 1 / 2

/-- **A value in the rounding interval of a number.** -/
structure IsNearest (b : Binary) (r : ℚ) : Prop where
  low : (b.significand - b.reach) * 2 ^ b.exponent ≤ r
  high : r ≤ (b.significand + 1 / 2) * 2 ^ b.exponent
  inside : b.significand % 2 = 1 →
    (b.significand - b.reach) * 2 ^ b.exponent < r ∧ r < (b.significand + 1 / 2) * 2 ^ b.exponent

/-- **The parts of a positive number** with the given bits. -/
structure Regular (b : Binary) (bits : Nat) : Prop where
  pos : 0 < b.significand
  lt : b.significand < 2 ^ 53
  least_le : leastExponent ≤ b.exponent
  le_most : b.exponent ≤ 971
  leading : leastExponent < b.exponent → leadingBit ≤ b.significand
  bits_eq : (b.exponent - leastExponent).toNat * leadingBit + b.significand = bits

variable {b : Binary} {bits : Nat} {r : ℚ}

lemma regular_ofBits (hpos : 0 < bits) (hfinite : bits < infinityBits) : (ofBits bits).Regular bits := by
  rw [infinityBits] at hfinite
  rw [ofBits]
  split_ifs with h
  · rw [leadingBit] at h
    refine ⟨hpos, h.trans (by decide), le_rfl, ?_, fun hlt => absurd hlt (lt_irrefl _), ?_⟩
    · simp [leastExponent]
    · simp
  · rw [leadingBit] at h
    constructor <;> simp only [leastExponent, leadingBit] <;> omega

lemma reach_bounds (b : Binary) : 1 / 4 ≤ b.reach ∧ b.reach ≤ 1 / 2 := by
  rw [reach]
  split_ifs <;> norm_num

/-- Only odd significands need care at the ends of the interval. -/
lemma isNearest_of_lt (hlow : (b.significand - b.reach) * 2 ^ b.exponent < r)
    (hhigh : r < (b.significand + 1 / 2) * 2 ^ b.exponent) : b.IsNearest r :=
  ⟨hlow.le, hhigh.le, fun _ => ⟨hlow, hhigh⟩⟩

lemma IsNearest.pos (h : b.IsNearest r) (hb : b.Regular bits) : 2 ^ (-1075 : Int) ≤ r := by
  have hsig : (1 : ℚ) ≤ b.significand := by exact_mod_cast hb.pos
  have hreach := b.reach_bounds.2
  have hleast := hb.least_le
  rw [leastExponent] at hleast
  calc (2 : ℚ) ^ (-1075 : Int) = 1 / 2 * 2 ^ (-1074 : Int) := by
        rw [show (-1075 : Int) = -1 + -1074 from rfl, zpow_add₀ two_ne_zero, zpow_neg_one, one_div]
    _ ≤ 1 / 2 * 2 ^ b.exponent := by
        gcongr
        norm_num
    _ ≤ (b.significand - b.reach) * 2 ^ b.exponent := by
        gcongr
        linarith
    _ ≤ r := h.low

lemma IsNearest.lt (h : b.IsNearest r) (hb : b.Regular bits) : r < 2 ^ (b.exponent + 53) := by
  have hsig : (b.significand : ℚ) + 1 ≤ 2 ^ 53 := by exact_mod_cast hb.lt
  calc r ≤ (b.significand + 1 / 2) * 2 ^ b.exponent := h.high
    _ < 2 ^ 53 * 2 ^ b.exponent := by
        gcongr
        linarith
    _ = 2 ^ (b.exponent + 53) := by
        rw [zpow_add₀ two_ne_zero, mul_comm]
        norm_cast

end Binary

/-! ### Fractions -/

variable {num den m : Nat}

/-- A quotient lies between its whole part and the next number. -/
lemma quotient_floor (num : Nat) (hden : 0 < den) :
    ((num / den : Nat) : ℚ) ≤ quotient (num, den) ∧ quotient (num, den) < (num / den : Nat) + 1 := by
  have hden' : (0 : ℚ) < den := by exact_mod_cast hden
  have hpart : ((num % den : Nat) : ℚ) / den < 1 := by
    rw [div_lt_one hden']
    exact_mod_cast Nat.mod_lt num hden
  have hpos : 0 ≤ ((num % den : Nat) : ℚ) / den := by positivity
  rw [quotient_eq hden]
  constructor <;> linarith

/-- Halfway between the whole part of a quotient and the next number. -/
lemma quotient_half (num : Nat) (hden : 0 < den) :
    (quotient (num, den) ≤ (num / den : Nat) + 1 / 2 ↔ 2 * (num % den) ≤ den)
      ∧ ((num / den : Nat) + 1 / 2 ≤ quotient (num, den) ↔ den ≤ 2 * (num % den)) := by
  have hden' : (0 : ℚ) < den := by exact_mod_cast hden
  rw [quotient_eq hden, add_le_add_iff_left, add_le_add_iff_left, div_le_div_iff₀ hden' two_pos,
    div_le_div_iff₀ two_pos hden', one_mul, mul_comm]
  norm_cast

/-- **Rounding a quotient** to the nearest, halves to even. -/
lemma roundDiv_eq_of_near (hden : 0 < den) (hlow : (m : ℚ) - 1 / 2 ≤ quotient (num, den))
    (hhigh : quotient (num, den) ≤ m + 1 / 2)
    (hodd : m % 2 = 1 → (m : ℚ) - 1 / 2 < quotient (num, den) ∧ quotient (num, den) < m + 1 / 2) :
    roundDiv num den = m := by
  obtain ⟨hfloor, hceil⟩ := quotient_floor num hden
  obtain ⟨hhalf_le, hhalf_ge⟩ := quotient_half num hden
  generalize quotient (num, den) = q at *
  have hle : num / den ≤ m := by
    have : ((num / den : Nat) : ℚ) < m + 1 := by linarith
    exact Nat.lt_succ_iff.mp (by exact_mod_cast this)
  have hge : m ≤ num / den + 1 := by
    have : (m : ℚ) < (num / den : Nat) + 2 := by linarith
    exact Nat.lt_succ_iff.mp (by exact_mod_cast this)
  rw [roundDiv]
  simp only [beq_iff_eq]
  obtain heq | heq : num / den = m ∨ num / den + 1 = m := by omega
  · -- the quotient is the number or above it
    rw [heq] at hhalf_le hhalf_ge ⊢
    have hfrac : 2 * (num % den) ≤ den := hhalf_le.mp hhigh
    have hstrict : m % 2 = 1 → ¬den ≤ 2 * (num % den) := fun h =>
      hhalf_ge.not.mp (hodd h).2.not_ge
    split_ifs <;> omega
  · -- the quotient is below the number
    have hcast : (m : ℚ) - 1 / 2 = (num / den : Nat) + 1 / 2 := by
      rw [← heq]
      push_cast
      ring
    rw [hcast] at hlow hodd
    have hfrac : den ≤ 2 * (num % den) := hhalf_ge.mp hlow
    have hstrict : m % 2 = 1 → ¬2 * (num % den) ≤ den := fun h =>
      hhalf_le.not.mp (hodd h).1.not_ge
    split_ifs <;> omega

namespace Binary

variable {b : Binary} {bits : Nat} {q : Int}

/-- The last place at which a value in the rounding interval is rounded: that of the number, or the next
one below a power of two. -/
lemma IsNearest.exponent_cases {r : ℚ} (h : b.IsNearest r) (hb : b.Regular bits)
    (hlow : (2 : ℚ) ^ (q + 52) ≤ r) (hhigh : r < 2 ^ (q + 53)) :
    max q leastExponent = b.exponent ∨
      max q leastExponent = b.exponent - 1 ∧ b.significand = leadingBit ∧
        leastExponent < b.exponent ∧ r < 2 ^ 53 * 2 ^ (b.exponent - 1) := by
  have hle : q ≤ b.exponent := by
    have := (zpow_lt_zpow_iff_right₀ one_lt_two).mp (hlow.trans_lt (h.lt hb))
    omega
  have hleast := hb.least_le
  by_cases heq : max q leastExponent = b.exponent
  · exact .inl heq
  · have hlt : q ≤ b.exponent - 1 := by
      rcases hle.lt_or_eq with hlt | rfl
      · omega
      · exact absurd (max_eq_left hleast) heq
    have hlt' : leastExponent < b.exponent := by
      rcases hleast.lt_or_eq with hlt' | heq'
      · exact hlt'
      · exact absurd ((max_eq_right (by omega)).trans heq') heq
    have hleading : (2 : ℚ) ^ 52 ≤ b.significand := by exact_mod_cast hb.leading hlt'
    have hupper : r < 2 ^ 53 * 2 ^ (b.exponent - 1) := by
      refine hhigh.trans_le ?_
      rw [← zpow_natCast, ← zpow_add₀ two_ne_zero]
      exact zpow_le_zpow_right₀ one_le_two (by push_cast; omega)
    have hhalf : (2 : ℚ) ^ b.exponent = 2 * 2 ^ (b.exponent - 1) := by
      rw [← zpow_one_add₀ two_ne_zero]
      congr 1
      ring
    have hpos : (0 : ℚ) < 2 ^ (b.exponent - 1) := by positivity
    have hsig : b.significand = leadingBit := by
      have hlow' := h.low
      have hreach := b.reach_bounds.2
      rw [hhalf] at hlow'
      have : (b.significand : ℚ) < 2 ^ 52 + 1 := by
        by_contra hge
        have hge' := not_lt.mp hge
        nlinarith [hupper]
      have : b.significand < 2 ^ 52 + 1 := by exact_mod_cast this
      have := hb.leading hlt'
      rw [leadingBit] at *
      omega
    have hreach : b.reach = 1 / 4 := if_pos ⟨hsig, hlt'⟩
    have hbelow : (2 : ℚ) ^ (b.exponent - 1 + 52) < 2 ^ (q + 53) := by
      refine lt_of_lt_of_le ?_ (h.low.trans hhigh.le)
      rw [hreach, hsig, hhalf, zpow_add₀ two_ne_zero, leadingBit]
      norm_num
      linarith
    have := (zpow_lt_zpow_iff_right₀ one_lt_two).mp hbelow
    exact .inr ⟨by omega, hsig, hlt', hupper⟩

/-- **A fraction in the rounding interval of a number** is rounded to it. -/
lemma nearestBits_eq_of_isNearest (hb : b.Regular bits) (hfinite : bits < infinityBits)
    (hnum : 0 < num) (hden : 0 < den) (h : b.IsNearest (quotient (num, den))) :
    nearestBits num den = bits := by
  obtain ⟨q, hfit, hlow, hhigh⟩ := fitExponent_eq hnum hden
  obtain ⟨⟨n, d⟩, hf⟩ : ∃ f, scaleTwo num den (-fitExponent num den) = f := ⟨_, rfl⟩
  have hpos : 0 < d := by simpa [hf] using @scaleTwo_pos num den hden (-fitExponent num den)
  have hscaled : quotient (n, d) * 2 ^ fitExponent num den = quotient (num, den) := by
    rw [← hf, quotient_scaleTwo, mul_assoc, ← zpow_add₀ two_ne_zero, neg_add_cancel, zpow_zero, mul_one]
  have hbits := hb.bits_eq
  rw [nearestBits_eq hnum hf]
  obtain heq | ⟨heq, hsig, hlt, hupper⟩ := h.exponent_cases hb hlow hhigh
  · have hunit : (0 : ℚ) < 2 ^ b.exponent := by positivity
    have hreach := b.reach_bounds.2
    rw [← hfit] at heq
    rw [heq] at hscaled
    have hround : roundDiv n d = b.significand := by
      refine roundDiv_eq_of_near hpos ?_ ?_ fun hodd => ⟨?_, ?_⟩
      · refine le_of_mul_le_mul_right ?_ hunit
        rw [hscaled]
        exact le_trans (by gcongr) h.low
      · refine le_of_mul_le_mul_right ?_ hunit
        rw [hscaled]
        exact h.high
      · refine lt_of_mul_lt_mul_right ?_ hunit.le
        rw [hscaled]
        exact lt_of_le_of_lt (by gcongr) (h.inside hodd).1
      · refine lt_of_mul_lt_mul_right ?_ hunit.le
        rw [hscaled]
        exact (h.inside hodd).2
    rw [heq, hround, hbits, min_eq_left hfinite.le]
  · -- Just below a power of two the value has one more bit, and is rounded up to that power.
    have hunit : (0 : ℚ) < 2 ^ (b.exponent - 1) := by positivity
    have hhalf : (2 : ℚ) ^ b.exponent = 2 * 2 ^ (b.exponent - 1) := by
      rw [← zpow_one_add₀ two_ne_zero]
      congr 1
      ring
    have hreach : b.reach = 1 / 4 := if_pos ⟨hsig, hlt⟩
    have hlower := h.low
    rw [hreach, hsig, hhalf, leadingBit] at hlower
    rw [← hfit] at heq
    rw [heq] at hscaled
    rw [← hscaled] at hlower hupper
    have hbelow : quotient (n, d) < 2 ^ 53 := lt_of_mul_lt_mul_right hupper hunit.le
    have habove : (2 : ℚ) ^ 53 - 1 / 2 ≤ quotient (n, d) := by
      refine le_of_mul_le_mul_right ?_ hunit
      refine le_trans (le_of_eq ?_) hlower
      norm_num
      ring
    have hround : roundDiv n d = 2 ^ 53 := by
      refine roundDiv_eq_of_near hpos (by exact_mod_cast habove) ?_ fun hodd => absurd hodd (by norm_num)
      push_cast
      linarith
    rw [heq, hround, ← hbits, hsig, min_eq_left]
    · rw [leadingBit]
      omega
    · rw [leadingBit]
      rw [hsig, leadingBit] at hbits
      omega

end Binary

/-! ### Decimals -/

namespace Decimal

variable {d : Decimal} {bits : Nat}

open Binary (IsNearest)

/-- **A decimal in the rounding interval of a number** is rounded to it. -/
theorem nearest_eq_of_isNearest {b : Binary} (hb : b.Regular bits) (hfinite : bits < infinityBits)
    (h : b.IsNearest d.toRat) : d.nearest = bits := by
  have hleast := h.pos hb
  have hdigits : 0 < d.digits := by
    refine Nat.pos_of_ne_zero fun h0 => ?_
    have hzero : d.toRat = 0 := by rw [toRat, h0, Nat.cast_zero, zero_mul]
    have : (0 : ℚ) < 2 ^ (-1075 : Int) := by positivity
    linarith
  obtain ⟨hlow, hhigh⟩ := toRat_bounds hdigits
  have hupper : d.toRat < 10 ^ (400 : Int) := by
    refine (h.lt hb).trans_le ?_
    refine (zpow_le_zpow_right₀ one_le_two (show b.exponent + 53 ≤ 1024 by linarith [hb.le_most])).trans ?_
    have : 2 ^ 1024 ≤ 10 ^ 400 := by decide +kernel
    exact_mod_cast this
  have hbig : ¬400 < d.power := fun hbig =>
    (hlow.trans_lt hupper).not_ge (zpow_le_zpow_right₀ (by norm_num) hbig.le)
  have hsmall : ¬d.power < -400 := fun hsmall => by
    have hten : (10 : ℚ) ^ (-400 : Int) ≤ 2 ^ (-1075 : Int) := by
      rw [zpow_neg, zpow_neg]
      have : 2 ^ 1075 ≤ 10 ^ 400 := by decide +kernel
      gcongr
      exact_mod_cast this
    exact (hleast.trans_lt hhigh).not_ge
      ((zpow_le_zpow_right₀ (by norm_num) (by omega)).trans hten)
  rw [nearest, if_neg (by simpa using hdigits.ne'), if_neg hbig, if_neg hsmall]
  obtain ⟨hn, hd⟩ := scaleTen_pos hdigits one_pos d.exponent
  refine Binary.nearestBits_eq_of_isNearest hb hfinite hn hd ?_
  change b.IsNearest (quotient (scaleTen d.digits 1 d.exponent))
  rwa [quotient_scaleTen, quotient, Nat.cast_one, div_one]

end Decimal

end LessonLang
