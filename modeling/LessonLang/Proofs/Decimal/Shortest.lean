import LessonLang.Proofs.Decimal.Nearest

/-!
The shortest decimal of a number reads back.

* `Interval.holds_iff`: the interval that is searched is the rounding interval of the number.
* A decimal that the search takes from a grid lies in the interval (`Decimal.onGrid_cases`), and the
  grid of seventeen digits has one (`Decimal.exists_onGrid`), since its steps are shorter than the interval
  (`Decimal.step_lt`) and the place of the point is not too far to the right
  (`ten_zpow_pointPlace_le`).
* `Decimal.isNearest_shortest`, `Decimal.nearest_of_toRat_eq`: so the shortest decimal of a number is nearest
  to it, and rounding a decimal of that value gives the number back.
-/

namespace LessonLang

open Binary (IsNearest Regular)

variable {b : Binary} {bits num den : Nat}

lemma scaleTen_den_pos (num : Nat) (hden : 0 < den) (e : Int) : 0 < (scaleTen num den e).2 := by
  rw [scaleTen]
  split_ifs
  · exact hden
  · exact Nat.mul_pos hden (Nat.pow_pos (by decide))

/-! ### The interval that is searched -/

namespace Interval

lemma den_ofBits_pos (bits : Nat) : 0 < (ofBits bits).den := scaleTwo_pos one_pos _

/-- The value, and a quarter of a unit in the last place, over the common denominator. -/
lemma quotient_ofBits (bits n : Nat) :
    quotient (n * (scaleTwo 1 1 ((Binary.ofBits bits).exponent - 2)).1, (ofBits bits).den)
      = n / 4 * 2 ^ (Binary.ofBits bits).exponent := by
  have hunit : quotient (scaleTwo 1 1 ((Binary.ofBits bits).exponent - 2))
      = 2 ^ (Binary.ofBits bits).exponent / 4 := by
    rw [quotient_scaleTwo, quotient, zpow_sub₀ two_ne_zero]
    norm_num
  rw [quotient, Nat.cast_mul, mul_div_assoc]
  change (n : ℚ) * quotient (scaleTwo 1 1 ((Binary.ofBits bits).exponent - 2)) = _
  rw [hunit]
  ring

lemma quotient_value (bits : Nat) :
    quotient ((ofBits bits).value, (ofBits bits).den) = (Binary.ofBits bits).toRat := by
  refine (quotient_ofBits bits (4 * (Binary.ofBits bits).significand)).trans ?_
  rw [Binary.toRat]
  push_cast
  ring

lemma quotient_low (hpos : 0 < (Binary.ofBits bits).significand) :
    quotient ((ofBits bits).low, (ofBits bits).den)
      = ((Binary.ofBits bits).significand - (Binary.ofBits bits).reach)
        * 2 ^ (Binary.ofBits bits).exponent := by
  refine (quotient_ofBits bits _).trans ?_
  rw [Binary.reach]
  simp only [Bool.and_eq_true, beq_iff_eq, decide_eq_true_eq]
  congr 1
  split_ifs
  all_goals
    rw [Nat.cast_sub (by omega)]
    push_cast
    ring

lemma quotient_high (bits : Nat) :
    quotient ((ofBits bits).high, (ofBits bits).den)
      = ((Binary.ofBits bits).significand + 1 / 2) * 2 ^ (Binary.ofBits bits).exponent := by
  refine (quotient_ofBits bits (4 * (Binary.ofBits bits).significand + 2)).trans ?_
  push_cast
  ring

/-- **The interval that is searched** is the rounding interval of the number. -/
lemma holds_iff (hpos : 0 < (Binary.ofBits bits).significand) (hden : 0 < den) :
    (ofBits bits).holds num den = true ↔ (Binary.ofBits bits).IsNearest (quotient (num, den)) := by
  have hden' : (0 : ℚ) < den := by exact_mod_cast hden
  have hunit : (0 : ℚ) < (ofBits bits).den := by exact_mod_cast den_ofBits_pos bits
  have hle : ∀ n : Nat, n * den ≤ num * (ofBits bits).den ↔
      quotient (n, (ofBits bits).den) ≤ quotient (num, den) := fun n => by
    rw [quotient, quotient, div_le_div_iff₀ hunit hden']
    exact_mod_cast Iff.rfl
  have hge : ∀ n : Nat, num * (ofBits bits).den ≤ n * den ↔
      quotient (num, den) ≤ quotient (n, (ofBits bits).den) := fun n => by
    rw [quotient, quotient, div_le_div_iff₀ hden' hunit]
    exact_mod_cast Iff.rfl
  have hlow := hle (ofBits bits).low
  have hhigh := hge (ofBits bits).high
  have hlow' := (hge (ofBits bits).low).not
  have hhigh' := (hle (ofBits bits).high).not
  rw [not_le, not_le, quotient_low hpos] at hlow'
  rw [not_le, not_le, quotient_high] at hhigh'
  rw [quotient_low hpos] at hlow
  rw [quotient_high] at hhigh
  have hclosed : (ofBits bits).closed = ((Binary.ofBits bits).significand % 2 == 0) := rfl
  rw [holds, hclosed]
  simp only [beq_iff_eq]
  split_ifs with heven
  · rw [Bool.and_eq_true, decide_eq_true_iff, decide_eq_true_iff, hlow, hhigh]
    refine ⟨?_, fun h => ⟨h.low, h.high⟩⟩
    rintro ⟨hl, hh⟩
    exact ⟨hl, hh, fun hodd => by omega⟩
  · rw [Bool.and_eq_true, decide_eq_true_iff, decide_eq_true_iff, hlow', hhigh']
    refine ⟨?_, fun h => h.inside (by omega)⟩
    rintro ⟨hl, hh⟩
    exact Binary.isNearest_of_lt hl hh

end Interval

/-! ### The place of the point -/

lemma den_le_leadingZeros (bound : Nat) (h : den ≤ 10 ^ bound * num) :
    den ≤ 10 ^ (leadingZeros num den bound + 1) * num := by
  induction bound generalizing num with
  | zero =>
      rw [pow_zero, one_mul] at h
      rw [leadingZeros]
      omega
  | succ bound ih =>
      rw [leadingZeros]
      split_ifs with hfirst
      · rwa [zero_add, pow_one]
      · have hnext := @ih (10 * num) (by rw [pow_succ] at h; linarith)
        rwa [pow_succ _ (_ + 1), mul_assoc]

/-- **The digit in front of the point** is not above the first digit. -/
lemma ten_zpow_pointPlace_le (hden : 0 < den) (h : den ≤ 10 ^ 400 * num) :
    (10 : ℚ) ^ (pointPlace num den - 1) ≤ quotient (num, den) := by
  have hden' : (0 : ℚ) < den := by exact_mod_cast hden
  rw [pointPlace]
  split_ifs with hle
  · have hpos : 0 < num / den := Nat.div_pos hle hden
    obtain ⟨k, hk⟩ : ∃ k, (Nat.toDigits 10 (num / den)).length = k + 1 :=
      Nat.exists_eq_succ_of_ne_zero Nat.length_toDigits_pos.ne'
    have hten : 10 ^ k ≤ num / den := by
      rcases Nat.eq_zero_or_pos k with rfl | hk'
      · exact hpos
      · refine Nat.not_lt.mp fun hlt => ?_
        have := (Nat.length_toDigits_le_iff (by decide) hk').mpr hlt
        omega
    have hmul : 10 ^ k * den ≤ num := (Nat.le_div_iff_mul_le hden).mp hten
    rw [hk, Nat.cast_succ, add_sub_cancel_right, zpow_natCast, quotient, le_div_iff₀ hden']
    exact_mod_cast hmul
  · have hzeros := den_le_leadingZeros 400 h
    rw [show -(leadingZeros num den 400 : Int) - 1 = -((leadingZeros num den 400 + 1 : Nat) : Int) by
      push_cast; ring, zpow_neg, zpow_natCast, quotient, le_div_iff₀ hden',
      inv_mul_le_iff₀ (by positivity)]
    exact_mod_cast hzeros

/-! ### Grids -/

namespace Decimal

lemma stripZeros_toRat (bound : Nat) (d : Decimal) : (stripZeros bound d).toRat = d.toRat := by
  induction bound generalizing d with
  | zero => rfl
  | succ bound ih =>
      rw [stripZeros]
      split_ifs with h
      · rw [ih, toRat, toRat, zpow_add_one₀ (by norm_num)]
        simp only [Bool.and_eq_true, bne_iff_ne, beq_iff_eq] at h
        have hdigits : (d.digits : ℚ) = (d.digits / 10 : Nat) * 10 := by
          exact_mod_cast (Nat.div_mul_cancel (Nat.dvd_of_mod_eq_zero h.2)).symm
        rw [hdigits]
        ring
      · rfl

/-- A decimal with `n` at the place of `e` lies in the interval. -/
def onInterval (bits n : Nat) (e : Int) : Bool :=
  (Interval.ofBits bits).holds (scaleTen n 1 e).1 (scaleTen n 1 e).2

lemma onInterval_iff (hpos : 0 < (Binary.ofBits bits).significand) (n : Nat) (e : Int) :
    onInterval bits n e = true ↔ (Binary.ofBits bits).IsNearest (toRat ⟨n, e⟩) := by
  rw [onInterval, Interval.holds_iff hpos (scaleTen_den_pos n one_pos e)]
  change (Binary.ofBits bits).IsNearest (quotient (scaleTen n 1 e)) ↔ _
  rw [quotient_scaleTen, quotient, toRat, Nat.cast_one, div_one]

/-- The neighbour below the number on a grid. -/
def gridBelow (bits : Nat) (e : Int) : Nat :=
  (scaleTen (Interval.ofBits bits).value (Interval.ofBits bits).den (-e)).1
    / (scaleTen (Interval.ofBits bits).value (Interval.ofBits bits).den (-e)).2

/-- **What is taken from a grid** is one of the two neighbours, and lies in the interval. -/
lemma onGrid_cases {e : Int} {d : Decimal} (h : onGrid (Interval.ofBits bits) e = some d) :
    ∃ n, onInterval bits n e = true ∧ d = ⟨n, e⟩ := by
  have hround := @roundDiv_bounds (scaleTen (Interval.ofBits bits).value (Interval.ofBits bits).den (-e)).1
    (scaleTen (Interval.ofBits bits).value (Interval.ofBits bits).den (-e)).2
  rw [onGrid] at h
  dsimp only at h
  split_ifs at h with hdown hup hup
  · obtain rfl := Option.some.inj h
    obtain heq | heq := (Nat.le_and_le_add_one_iff.mp hround)
    · exact ⟨_, hdown, by rw [heq]⟩
    · exact ⟨_, hup, by rw [heq]⟩
  · obtain rfl := Option.some.inj h
    exact ⟨_, hdown, rfl⟩
  · obtain rfl := Option.some.inj h
    exact ⟨_, hup, rfl⟩

lemma onGrid_isSome {e : Int} (h : onInterval bits (gridBelow bits e) e = true ∨
    onInterval bits (gridBelow bits e + 1) e = true) :
    (onGrid (Interval.ofBits bits) e).isSome = true := by
  rw [onGrid]
  dsimp only
  split_ifs with hdown hup hup
  · rfl
  · rfl
  · rfl
  · exact absurd h (not_or.mpr ⟨hdown, hup⟩)

/-- A grid whose steps are shorter than the interval has a neighbour of the number in it. -/
lemma onInterval_of_step_lt {e : Int} (hpos : 0 < (Binary.ofBits bits).significand)
    (hstep : (10 : ℚ) ^ e < 2 * (Binary.ofBits bits).reach * 2 ^ (Binary.ofBits bits).exponent) :
    onInterval bits (gridBelow bits e) e = true ∨ onInterval bits (gridBelow bits e + 1) e = true := by
  rw [onInterval_iff hpos, onInterval_iff hpos]
  simp only [toRat]
  have hgrid : (0 : ℚ) < 10 ^ e := by positivity
  have hunit : (0 : ℚ) < 2 ^ (Binary.ofBits bits).exponent := by positivity
  have hhalf : (Binary.ofBits bits).reach * 2 ^ (Binary.ofBits bits).exponent
      ≤ 1 / 2 * 2 ^ (Binary.ofBits bits).exponent := by
    gcongr
    exact (Binary.ofBits bits).reach_bounds.2
  have hvalue : quotient (scaleTen (Interval.ofBits bits).value (Interval.ofBits bits).den (-e)) * 10 ^ e
      = (Binary.ofBits bits).significand * 2 ^ (Binary.ofBits bits).exponent := by
    rw [quotient_scaleTen, Interval.quotient_value, mul_assoc, ← zpow_add₀ (by norm_num), neg_add_cancel,
      zpow_zero, mul_one, Binary.toRat]
  have hfloor : (gridBelow bits e : ℚ)
        ≤ quotient (scaleTen (Interval.ofBits bits).value (Interval.ofBits bits).den (-e)) ∧
      quotient (scaleTen (Interval.ofBits bits).value (Interval.ofBits bits).den (-e))
        < gridBelow bits e + 1 :=
    quotient_floor _ (scaleTen_den_pos _ (Interval.den_ofBits_pos bits) (-e))
  generalize quotient (scaleTen (Interval.ofBits bits).value (Interval.ofBits bits).den (-e)) = x at *
  obtain ⟨hbelow, habove⟩ := hfloor
  -- The nearer of the two neighbours is at most half a step away.
  rcases le_or_gt (x - gridBelow bits e) (1 / 2) with hnear | hnear
  · have hbelow' := mul_le_mul_of_nonneg_right hbelow hgrid.le
    have hnear' := mul_le_mul_of_nonneg_right hnear hgrid.le
    refine .inl (Binary.isNearest_of_lt ?_ ?_) <;> linarith
  · have habove' := mul_lt_mul_of_pos_right habove hgrid
    have hnear' := mul_lt_mul_of_pos_right hnear hgrid
    push_cast
    refine .inr (Binary.isNearest_of_lt ?_ ?_) <;> linarith

/-- **The steps of the grid of seventeen digits** are shorter than the interval. -/
lemma step_lt {b : Binary} (hb : b.Regular bits) {e : Int} (he : (10 : ℚ) ^ (e + 16) ≤ b.toRat) :
    (10 : ℚ) ^ e < 2 * b.reach * 2 ^ b.exponent := by
  have hunit : (0 : ℚ) < 2 ^ b.exponent := by positivity
  have hsig : (b.significand : ℚ) < 2 ^ 53 := by exact_mod_cast hb.lt
  rw [zpow_add₀ (by norm_num), Binary.toRat] at he
  have hten : (10 : ℚ) ^ (16 : Int) = 10 ^ 16 := by norm_cast
  rw [hten] at he
  rw [Binary.reach]
  split_ifs with h
  · rw [h.1, leadingBit] at he
    push_cast at he
    linarith
  · nlinarith

/-- Seventeen digits always suffice. -/
lemma exists_onGrid (hb : (Binary.ofBits bits).Regular bits) :
    (onGrid (Interval.ofBits bits)
      (pointPlace (Interval.ofBits bits).value (Interval.ofBits bits).den - (17 : Nat))).isSome = true := by
  have hden := Interval.den_ofBits_pos bits
  have hden' : (0 : ℚ) < (Interval.ofBits bits).den := by exact_mod_cast hden
  have hsmall : (Interval.ofBits bits).den ≤ 10 ^ 400 * (Interval.ofBits bits).value := by
    have hvalue := Interval.quotient_value bits
    rw [quotient, Binary.toRat, div_eq_iff hden'.ne'] at hvalue
    have hleast : (2 : ℚ) ^ (-1074 : Int) ≤ 2 ^ (Binary.ofBits bits).exponent :=
      zpow_le_zpow_right₀ one_le_two hb.least_le
    have hsig : (1 : ℚ) ≤ (Binary.ofBits bits).significand := by exact_mod_cast hb.pos
    have hten : (1 : ℚ) ≤ 10 ^ 400 * 2 ^ (-1074 : Int) := by
      rw [zpow_neg, ← div_eq_mul_inv, one_le_div₀ (by positivity)]
      have : 2 ^ 1074 ≤ 10 ^ 400 := by decide +kernel
      exact_mod_cast this
    have hle : ((Interval.ofBits bits).den : ℚ) ≤ 10 ^ 400 * (Interval.ofBits bits).value := by
      calc ((Interval.ofBits bits).den : ℚ) = 1 * (Interval.ofBits bits).den := (one_mul _).symm
        _ ≤ 10 ^ 400 * 2 ^ (-1074 : Int) * (Interval.ofBits bits).den := by gcongr
        _ = 10 ^ 400 * (1 * 2 ^ (-1074 : Int)) * (Interval.ofBits bits).den := by rw [one_mul]
        _ ≤ 10 ^ 400 * ((Binary.ofBits bits).significand * 2 ^ (Binary.ofBits bits).exponent)
              * (Interval.ofBits bits).den := by gcongr
        _ = 10 ^ 400 * (Interval.ofBits bits).value := by rw [hvalue, mul_assoc]
    exact_mod_cast hle
  have hplace := ten_zpow_pointPlace_le hden hsmall
  rw [Interval.quotient_value] at hplace
  refine onGrid_isSome (onInterval_of_step_lt hb.pos (step_lt hb ?_))
  rwa [show ∀ p : Int, p - (17 : Nat) + 16 = p - 1 by intro p; push_cast; ring]

/-! ### The search -/

/-- **The search gives a decimal in the interval** if some grid that it looks at has one. -/
lemma isNearest_searchGrids (hpos : 0 < (Binary.ofBits bits).significand) (place : Int)
    (rounds digits : Nat) (h : ∃ k, digits ≤ k ∧ k < digits + rounds ∧
      (onGrid (Interval.ofBits bits) (place - k)).isSome = true) :
    (Binary.ofBits bits).IsNearest (searchGrids (Interval.ofBits bits) place digits rounds).toRat := by
  induction rounds generalizing digits with
  | zero =>
      obtain ⟨k, hk, hk', -⟩ := h
      omega
  | succ rounds ih =>
      rw [searchGrids]
      cases hgrid : onGrid (Interval.ofBits bits) (place - digits) with
      | some d =>
          obtain ⟨n, hn, rfl⟩ := onGrid_cases hgrid
          exact (onInterval_iff hpos n _).mp hn
      | none =>
          obtain ⟨k, hk, hk', hsome⟩ := h
          refine ih (digits + 1) ⟨k, ?_, by omega, hsome⟩
          refine Nat.lt_of_le_of_ne hk ?_
          rintro rfl
          rw [hgrid] at hsome
          exact absurd hsome (by simp)

/-- **The shortest decimal of a number** lies in its rounding interval. -/
theorem isNearest_shortest (hpos : 0 < bits) (hfinite : bits < infinityBits) :
    (Binary.ofBits bits).IsNearest (shortest bits).toRat := by
  have hb := Binary.regular_ofBits hpos hfinite
  rw [shortest, if_neg (by simpa using hpos.ne')]
  dsimp only
  rw [stripZeros_toRat]
  exact isNearest_searchGrids hb.pos _ 17 1 ⟨17, by decide, by decide, exists_onGrid hb⟩

/-- **Reading back.** Every decimal with the value of the shortest decimal of a number is rounded to that
number. -/
theorem nearest_of_toRat_eq {d : Decimal} (hfinite : bits < infinityBits)
    (hd : d.toRat = (shortest bits).toRat) : d.nearest = bits := by
  rcases Nat.eq_zero_or_pos bits with rfl | hpos
  · have hzero : d.toRat = 0 := hd.trans (by decide +kernel)
    have hdigits : d.digits = 0 := by
      rw [toRat, mul_eq_zero, or_iff_left (by positivity)] at hzero
      exact_mod_cast hzero
    rw [nearest, if_pos (by simpa using hdigits)]
  · refine nearest_eq_of_isNearest (Binary.regular_ofBits hpos hfinite) hfinite ?_
    rw [hd]
    exact isNearest_shortest hpos hfinite

end Decimal

end LessonLang
