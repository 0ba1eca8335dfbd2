import Mathlib.Tactic
import LessonLang.Decimal.Numeral

/-!
When a decimal is too large for a number.

* `Decimal.toRat` is the value of a decimal, `tooLarge` is half a unit beyond the largest number,
  `2^1024 - 2^970`.
* Scaling keeps the value (`quotient_scaleTwo`, `quotient_scaleTen`), and the exponent that fits a fraction
  leaves a quotient of 53 bits, or of fewer at the least exponent (`fitExponent_eq`).
* `Decimal.nearest_lt_infinityBits_iff`: the number nearest to a decimal is finite exactly if the decimal is
  smaller than `tooLarge`.
-/

namespace LessonLang

/-- The value of a decimal. -/
def Decimal.toRat (d : Decimal) : ℚ := d.digits * (10 : ℚ) ^ d.exponent

/-- **The least value that rounds to infinity**, half-way between the largest number and the next power of
two. -/
def tooLarge : ℚ := 2 ^ 1024 - 2 ^ 970

/-- The bound lies half a unit above the largest finite number. -/
lemma tooLarge_eq : tooLarge = (2 ^ 53 - 1 / 2) * 2 ^ (971 : Int) := by
  rw [tooLarge, sub_mul, ← zpow_natCast, ← zpow_natCast, ← zpow_natCast, ← zpow_add₀ two_ne_zero, one_div,
    ← zpow_neg_one, ← zpow_add₀ two_ne_zero]
  rfl

lemma two_zpow_le_tooLarge : (2 : ℚ) ^ (1023 : Int) ≤ tooLarge := by
  rw [tooLarge_eq, show (1023 : Int) = 52 + 971 from rfl, zpow_add₀ two_ne_zero]
  gcongr
  norm_num

lemma tooLarge_le_two_zpow : tooLarge ≤ (2 : ℚ) ^ (1024 : Int) := by
  rw [tooLarge_eq, show (1024 : Int) = 53 + 971 from rfl, zpow_add₀ two_ne_zero]
  gcongr
  norm_num

lemma tooLarge_le_ten_zpow : tooLarge ≤ (10 : ℚ) ^ (400 : Int) := by
  refine tooLarge_le_two_zpow.trans ?_
  have h : 2 ^ 1024 ≤ 10 ^ 400 := by decide +kernel
  exact_mod_cast h

lemma one_lt_tooLarge : 1 < tooLarge :=
  (one_lt_zpow₀ one_lt_two (by decide)).trans_le two_zpow_le_tooLarge

/-! ### Fractions and their scaling -/

/-- The value of a fraction. -/
def quotient (f : Nat × Nat) : ℚ := f.1 / f.2

/-- To scale numerator or denominator is to multiply the quotient by a power. -/
lemma quotient_scale (b num den : Nat) (e : Int) :
    quotient (if 0 ≤ e then (num * Nat.pow b e.toNat, den) else (num, den * Nat.pow b (-e).toNat))
      = quotient (num, den) * (b : ℚ) ^ e := by
  obtain ⟨k, rfl | rfl⟩ := e.eq_nat_or_neg
  · rw [if_pos (Int.natCast_nonneg k), quotient, quotient, zpow_natCast]
    push_cast [Int.toNat_natCast, Nat.pow_eq]
    ring
  · rcases Nat.eq_zero_or_pos k with rfl | hk
    · simp [quotient]
    · rw [if_neg (by omega), neg_neg, quotient, quotient, zpow_neg, zpow_natCast, ← div_eq_mul_inv, div_div]
      push_cast [Int.toNat_natCast, Nat.pow_eq]
      rfl

lemma quotient_scaleTwo (num den : Nat) (e : Int) :
    quotient (scaleTwo num den e) = quotient (num, den) * 2 ^ e := quotient_scale 2 num den e

lemma quotient_scaleTen (num den : Nat) (e : Int) :
    quotient (scaleTen num den e) = quotient (num, den) * 10 ^ e := quotient_scale 10 num den e

lemma scaleTwo_pos {num den : Nat} (hden : 0 < den) (e : Int) : 0 < (scaleTwo num den e).2 := by
  rw [scaleTwo]
  split_ifs
  · exact hden
  · exact Nat.mul_pos hden (Nat.pow_pos (by decide))

lemma scaleTen_pos {num den : Nat} (hnum : 0 < num) (hden : 0 < den) (e : Int) :
    0 < (scaleTen num den e).1 ∧ 0 < (scaleTen num den e).2 := by
  rw [scaleTen]
  split_ifs
  · exact ⟨Nat.mul_pos hnum (Nat.pow_pos (by decide)), hden⟩
  · exact ⟨hnum, Nat.mul_pos hden (Nat.pow_pos (by decide))⟩

/-! ### Rounding a quotient -/

variable {num den m : Nat}

/-- A quotient has a whole part and a rest. -/
lemma quotient_eq (hden : 0 < den) :
    quotient (num, den) = (num / den : Nat) + ((num % den : Nat) : ℚ) / den := by
  have hden' : (den : ℚ) ≠ 0 := by exact_mod_cast hden.ne'
  rw [quotient, eq_comm, ← mul_div_cancel_left₀ ((num / den : Nat) : ℚ) hden', ← add_div]
  exact_mod_cast congrArg (fun n : Nat => (n : ℚ) / den) (Nat.div_add_mod num den)

/-- Rounding goes to one of the two neighbours. -/
lemma roundDiv_bounds : num / den ≤ roundDiv num den ∧ roundDiv num den ≤ num / den + 1 := by
  rw [roundDiv]
  split_ifs <;> omega

/-- Rounding passes no whole number that lies above. -/
lemma roundDiv_le (hden : 0 < den) (h : quotient (num, den) < m) : roundDiv num den ≤ m := by
  rw [quotient, div_lt_iff₀ (by exact_mod_cast hden)] at h
  have hq : num / den < m := (Nat.div_lt_iff_lt_mul hden).mpr (by exact_mod_cast h)
  exact roundDiv_bounds.2.trans hq

/-- Nor one that lies below. -/
lemma le_roundDiv (hden : 0 < den) (h : m ≤ quotient (num, den)) : m ≤ roundDiv num den := by
  rw [quotient, le_div_iff₀ (by exact_mod_cast hden)] at h
  have hq : m ≤ num / den := (Nat.le_div_iff_mul_le hden).mpr (by exact_mod_cast h)
  exact hq.trans roundDiv_bounds.1

/-- A quotient that is half a unit below an even number goes up to it. -/
lemma roundDiv_lt_iff (hden : 0 < den) (heven : m % 2 = 0) :
    roundDiv num den < m ↔ quotient (num, den) + 1 / 2 < m := by
  have hden' : (0 : ℚ) < den := by exact_mod_cast hden
  have hpart : ((num % den : Nat) : ℚ) / den < 1 := by
    rw [div_lt_one hden']
    exact_mod_cast Nat.mod_lt num hden
  have hpos : 0 ≤ ((num % den : Nat) : ℚ) / den := by positivity
  have hbounds := @roundDiv_bounds num den
  rw [quotient_eq hden]
  obtain hm | hm | hm := lt_trichotomy (num / den + 1) m
  · have hm' : ((num / den : Nat) : ℚ) + 2 ≤ m := by exact_mod_cast hm
    exact iff_of_true (by omega) (by linarith)
  · -- The quotient is between an odd number and `m`, and the test is on its fraction alone.
    have hodd : num / den % 2 = 1 := by omega
    have hhalf : ((num % den : Nat) : ℚ) / den < 1 / 2 ↔ 2 * (num % den) < den := by
      rw [div_lt_iff₀ hden', ← sub_pos, ← Nat.cast_lt (α := ℚ), ← sub_pos]
      push_cast
      constructor <;> intro h <;> linarith
    have hm' : (m : ℚ) = (num / den : Nat) + 1 := by exact_mod_cast hm.symm
    rw [hm', show ((num / den : Nat) : ℚ) + (num % den : Nat) / den + 1 / 2 < (num / den : Nat) + 1
      ↔ ((num % den : Nat) : ℚ) / den < 1 / 2 by constructor <;> intro h <;> linarith, hhalf, roundDiv]
    simp only [beq_iff_eq]
    split_ifs <;> omega
  · have hm' : (m : ℚ) ≤ (num / den : Nat) := by exact_mod_cast Nat.lt_succ_iff.mp hm
    exact iff_of_false (by omega) (by linarith)

/-! ### The exponent that fits -/

/-- The lengths of numerator and denominator tell the size of the quotient up to a factor of four.
-/
lemma quotient_bounds (hnum : 0 < num) (hden : 0 < den) :
    (2 : ℚ) ^ ((num.log2 : Int) - den.log2 - 1) < quotient (num, den) ∧
      quotient (num, den) < 2 ^ ((num.log2 : Int) - den.log2 + 1) := by
  have hden' : (0 : ℚ) < den := by exact_mod_cast hden
  have hnum_le : (2 : ℚ) ^ num.log2 ≤ num := by exact_mod_cast Nat.log2_self_le hnum.ne'
  have hnum_lt : (num : ℚ) < 2 ^ (num.log2 + 1) := by exact_mod_cast Nat.lt_log2_self
  have hden_le : (2 : ℚ) ^ den.log2 ≤ den := by exact_mod_cast Nat.log2_self_le hden.ne'
  have hden_lt : (den : ℚ) < 2 ^ (den.log2 + 1) := by exact_mod_cast Nat.lt_log2_self
  rw [quotient]
  constructor
  · rw [lt_div_iff₀ hden']
    calc (2 : ℚ) ^ ((num.log2 : Int) - den.log2 - 1) * den
        < 2 ^ ((num.log2 : Int) - den.log2 - 1) * 2 ^ (den.log2 + 1) := by gcongr
      _ = 2 ^ num.log2 := by
          rw [← zpow_natCast, ← zpow_natCast, ← zpow_add₀ two_ne_zero]
          congr 1
          push_cast
          ring
      _ ≤ num := hnum_le
  · rw [div_lt_iff₀ hden']
    calc (num : ℚ) < 2 ^ (num.log2 + 1) := hnum_lt
      _ = 2 ^ ((num.log2 : Int) - den.log2 + 1) * 2 ^ den.log2 := by
          rw [← zpow_natCast, ← zpow_natCast, ← zpow_add₀ two_ne_zero]
          congr 1
          push_cast
          ring
      _ ≤ 2 ^ ((num.log2 : Int) - den.log2 + 1) * den := by gcongr

/-- **The exponent that fits a fraction** leaves a quotient of 53 bits, unless it is too small for a
number. -/
lemma fitExponent_eq (hnum : 0 < num) (hden : 0 < den) :
    ∃ q : Int, fitExponent num den = max q leastExponent ∧
      (2 : ℚ) ^ (q + 52) ≤ quotient (num, den) ∧ quotient (num, den) < 2 ^ (q + 53) := by
  obtain ⟨hlow, hhigh⟩ := quotient_bounds hnum hden
  generalize hq : (num.log2 : Int) - den.log2 - 53 = q at *
  have hle : (scaleTwo num den (-(q + 53))).2 ≤ (scaleTwo num den (-(q + 53))).1 ↔
      2 ^ (q + 53) ≤ quotient (num, den) := by
    have hpos := @scaleTwo_pos num den hden (-(q + 53))
    rw [← Nat.cast_le (α := ℚ), ← one_le_div₀ (by exact_mod_cast hpos)]
    change 1 ≤ quotient (scaleTwo num den (-(q + 53))) ↔ _
    rw [quotient_scaleTwo, zpow_neg, ← div_eq_mul_inv, one_le_div₀ (by positivity)]
  rw [fitExponent, hq]
  by_cases h : (2 : ℚ) ^ (q + 53) ≤ quotient (num, den)
  · refine ⟨q + 1, by simp only [if_pos (hle.mpr h)], ?_, ?_⟩
    · rwa [show q + 1 + 52 = q + 53 by ring]
    · rwa [show q + 1 + 53 = (num.log2 : Int) - den.log2 + 1 by rw [← hq]; ring]
  · refine ⟨q, by simp only [if_neg (hle.not.mpr h)], ?_, not_le.mp h⟩
    rw [show q + 52 = (num.log2 : Int) - den.log2 - 1 by rw [← hq]; ring]
    exact hlow.le

/-! ### Decimals in range -/

/-- The nearest bits are put together from the exponent that fits and the rounded fraction. -/
lemma nearestBits_eq {n d : Nat} (hnum : 0 < num)
    (hf : scaleTwo num den (-fitExponent num den) = (n, d)) :
    nearestBits num den
      = min ((fitExponent num den - leastExponent).toNat * leadingBit + roundDiv n d) infinityBits := by
  rw [nearestBits, if_neg (by simpa using hnum.ne')]
  dsimp only
  rw [hf]

/-- **What is not too large is rounded to a finite number**, and nothing else is. -/
lemma nearestBits_lt_infinityBits_iff (hnum : 0 < num) (hden : 0 < den) :
    nearestBits num den < infinityBits ↔ quotient (num, den) < tooLarge := by
  obtain ⟨q, hfit, hlow, hhigh⟩ := fitExponent_eq hnum hden
  obtain ⟨⟨n, d⟩, hf⟩ : ∃ f, scaleTwo num den (-fitExponent num den) = f := ⟨_, rfl⟩
  have hpos : 0 < d := by simpa [hf] using @scaleTwo_pos num den hden (-fitExponent num den)
  have hscaled : quotient (n, d) = quotient (num, den) / 2 ^ max q leastExponent := by
    rw [← hf, quotient_scaleTwo, zpow_neg, ← div_eq_mul_inv, hfit]
  rw [nearestBits_eq hnum hf, hfit, min_lt_iff, or_iff_left (lt_irrefl _), leadingBit, infinityBits]
  obtain hq | rfl | hq := lt_trichotomy q 971
  · -- Below the largest exponent nothing rounds to infinity.
    have hround : roundDiv n d ≤ 2 ^ 53 := by
      refine roundDiv_le hpos ?_
      rw [hscaled, div_lt_iff₀ (by positivity), Nat.cast_pow, ← zpow_natCast, Nat.cast_two,
        ← zpow_add₀ two_ne_zero]
      exact hhigh.trans_le (zpow_le_zpow_right₀ one_le_two (by push_cast; omega))
    have hlt : quotient (num, den) < tooLarge :=
      hhigh.trans_le ((zpow_le_zpow_right₀ one_le_two (by omega)).trans two_zpow_le_tooLarge)
    rw [leastExponent] at *
    exact iff_of_true (by omega) hlt
  · have hbits : (max 971 leastExponent - leastExponent).toNat * 0x10000000000000 + roundDiv n d
        < 0x7ff0000000000000 ↔ roundDiv n d < 2 ^ 53 := by
      rw [show (max 971 leastExponent - leastExponent).toNat = 2045 from rfl]
      omega
    rw [hbits, roundDiv_lt_iff hpos (by norm_num), hscaled, tooLarge_eq, ← lt_sub_iff_add_lt,
      div_lt_iff₀ (by positivity)]
    norm_num [leastExponent]
  · have hround : 2 ^ 52 ≤ roundDiv n d := by
      refine le_roundDiv hpos ?_
      rw [hscaled, max_eq_left (by rw [leastExponent]; omega), le_div_iff₀ (by positivity), Nat.cast_pow,
        ← zpow_natCast, Nat.cast_two, ← zpow_add₀ two_ne_zero, add_comm]
      exact hlow
    have hle : tooLarge ≤ quotient (num, den) :=
      tooLarge_le_two_zpow.trans ((zpow_le_zpow_right₀ one_le_two (by omega)).trans hlow)
    rw [leastExponent] at *
    exact iff_of_false (by omega) hle.not_gt

namespace Decimal

variable {d : Decimal}

/-- The power of a decimal is that of its first digit. -/
lemma toRat_bounds (h : 0 < d.digits) :
    (10 : ℚ) ^ d.power ≤ d.toRat ∧ d.toRat < 10 ^ (d.power + 1) := by
  have hpow : ∀ n : Nat, (10 : ℚ) ^ (d.exponent + n) = 10 ^ n * 10 ^ d.exponent := fun n => by
    rw [add_comm, zpow_add₀ (by norm_num), zpow_natCast]
  have hlength : d.digitText.length = (Nat.toDigits 10 d.digits).length := List.length_map _
  obtain ⟨k, hk⟩ : ∃ k, d.digitText.length = k + 1 :=
    Nat.exists_eq_succ_of_ne_zero (by rw [hlength]; exact Nat.length_toDigits_pos.ne')
  have hle : 10 ^ k ≤ d.digits := by
    rcases Nat.eq_zero_or_pos k with rfl | hk'
    · exact h
    · refine Nat.not_lt.mp fun hlt => ?_
      have := (Nat.length_toDigits_le_iff (by decide) hk').mpr hlt
      omega
  have hlt : d.digits < 10 ^ (k + 1) :=
    (Nat.length_toDigits_le_iff (by decide) k.succ_pos).mp (by omega)
  have hpower : d.power = d.exponent + k := by
    rw [power, if_neg (by simpa using h.ne'), hk]
    push_cast
    ring
  rw [hpower, toRat, add_assoc, hpow, show ((k : Int) + 1) = (k + 1 : Nat) by push_cast; rfl, hpow]
  constructor
  · gcongr
    exact_mod_cast hle
  · gcongr
    exact_mod_cast hlt

/-- **The number nearest to a decimal is finite** exactly if the decimal is not too large. -/
theorem nearest_lt_infinityBits_iff (d : Decimal) : d.nearest < infinityBits ↔ d.toRat < tooLarge := by
  rcases Nat.eq_zero_or_pos d.digits with h0 | hpos
  · rw [nearest, if_pos (by simpa using h0), toRat, h0, Nat.cast_zero, zero_mul]
    exact iff_of_true (by decide) (one_pos.trans one_lt_tooLarge)
  obtain ⟨hlow, hhigh⟩ := toRat_bounds hpos
  rw [nearest, if_neg (by simpa using hpos.ne')]
  split_ifs with hbig hsmall
  · have hle : tooLarge ≤ d.toRat :=
      tooLarge_le_ten_zpow.trans ((zpow_le_zpow_right₀ (by norm_num) hbig.le).trans hlow)
    exact iff_of_false (lt_irrefl _) hle.not_gt
  · have hlt : d.toRat < 1 :=
      hhigh.trans_le (zpow_le_one_of_nonpos₀ (by norm_num) (by omega))
    exact iff_of_true (by decide) (hlt.trans one_lt_tooLarge)
  · obtain ⟨hn, hd⟩ := scaleTen_pos hpos one_pos d.exponent
    have hvalue : quotient (scaleTen d.digits 1 d.exponent) = d.toRat := by
      rw [quotient_scaleTen, quotient, toRat, Nat.cast_one, div_one]
    rw [nearestBits_lt_infinityBits_iff hn hd]
    exact hvalue ▸ Iff.rfl

end Decimal

end LessonLang
