import Mathlib
import LessonLang.Decimal.Numeral

/-!
Numbers as they are compared and made from bits.

* `orderOf` is the order of two numbers. Not-a-number has none with any number
  (`orderOf_eq_none_iff`), the order turns round with its operands (`orderOf_swap`), and the two tests that
  programs make are read off it (`lt_iff_orderOf`, `beq_iff_orderOf`).
* A number that is made from bits below those of infinity is finite (`isFinite_numberOf`), and so it is not
  not-a-number.
-/

namespace LessonLang

open Float.Model (Format UnpackedFloat)

open Float.Model.UnpackedFloat (pack packComponents unpack unpackExponent)

/-! ### The order of numbers -/

/-- **The order of two numbers**, if they have one. The two zeros are equal. -/
def orderOf (x y : Float) : Option Ordering := x.toModel.compare y.toModel

lemma compare_unpacked_swap (a b : UnpackedFloat) : b.compare a = (a.compare b).map Ordering.swap := by
  have hfinite : ∀ (e e' : Int) (m m' : Nat), (compare e' e).then (compare m' m)
      = ((compare e e').then (compare m m')).swap := by
    intro e e' m m'
    rw [Ordering.swap_then, ← Std.OrientedOrd.eq_swap, ← Std.OrientedOrd.eq_swap]
  cases a with
  | infinity s =>
      cases b with
      | infinity s' => cases s <;> cases s' <;> rfl
      | notANumber => rfl
      | zero s' => cases s <;> rfl
      | finite s' => cases s <;> rfl
  | notANumber => cases b <;> rfl
  | zero s =>
      cases b with
      | infinity s' => cases s' <;> rfl
      | notANumber => rfl
      | zero s' => rfl
      | finite s' => cases s' <;> rfl
  | finite s m e =>
      cases b with
      | infinity s' => cases s <;> cases s' <;> rfl
      | notANumber => cases s <;> rfl
      | zero s' => cases s <;> rfl
      | finite s' m' e' =>
          cases s <;> cases s' <;> simp [UnpackedFloat.compare, hfinite e e' m m']

lemma compare_unpacked_eq_none_iff (a b : UnpackedFloat) :
    a.compare b = none ↔ a.isNaN = true ∨ b.isNaN = true := by
  rcases a with s | _ | s | ⟨s, m, e, hm⟩ <;> rcases b with s' | _ | s' | ⟨s', m', e', hm'⟩ <;>
    try cases s
  all_goals try cases s'
  all_goals simp [UnpackedFloat.compare, UnpackedFloat.isNaN]

lemma lt_iff_orderOf {x y : Float} : x < y ↔ orderOf x y = some .lt := by
  change decide (x.toModel < y.toModel) = true ↔ _
  rw [decide_eq_true_iff]
  exact beq_iff_eq

lemma beq_iff_orderOf {x y : Float} : (x == y) = true ↔ orderOf x y = some .eq :=
  beq_iff_eq (a := x.toModel.unpack.compare y.toModel.unpack)

lemma orderOf_swap (x y : Float) : orderOf y x = (orderOf x y).map Ordering.swap :=
  compare_unpacked_swap _ _

lemma orderOf_eq_none_iff {x y : Float} : orderOf x y = none ↔ x.isNaN = true ∨ y.isNaN = true :=
  compare_unpacked_eq_none_iff _ _

/-! ### Finite numbers -/

/-- The exponent of a bit pattern, as it is written there. -/
def exponentField (b : BitVec 64) : Nat := (@unpackExponent Format.binary64 b).toNat

lemma exponentField_eq (b : BitVec 64) : exponentField b = b.toNat / 2 ^ 52 % 2 ^ 11 := by
  simp [exponentField, unpackExponent, BitVec.extractLsb, Nat.shiftRight_eq_div_pow]

lemma exponentField_packComponents (s : UnpackedFloat.Sign) (e : BitVec 11) (m : BitVec 52) :
    exponentField (packComponents Format.binary64 s e m) = e.toNat := by
  rw [exponentField, UnpackedFloat.unpackExponent_packComponents]

/-- Infinity and not-a-number have the largest exponent. -/
lemma isFinite_unpack_iff {b : BitVec 64} :
    (unpack Format.binary64 b).isFinite = true ↔ exponentField b < 2047 := by
  have hlt : exponentField b < 2 ^ 11 := BitVec.isLt _
  have hones : @unpackExponent Format.binary64 b = -1#_ ↔ exponentField b = 2047 := by
    rw [← BitVec.toNat_inj]
    exact Iff.rfl
  rw [unpack]
  dsimp only
  by_cases hb : @unpackExponent Format.binary64 b = -1#_
  · rw [if_pos hb]
    split_ifs <;> simp [UnpackedFloat.isFinite, hones.mp hb]
  · rw [if_neg hb]
    rw [hones] at hb
    split_ifs <;> simp only [UnpackedFloat.isFinite, true_iff] <;> omega

lemma exponentField_pack_finite {s : UnpackedFloat.Sign} {m : Nat} {e : Int} {hm : 0 < m}
    (he : (e + 1075).toNat < 2047) :
    exponentField (pack Format.binary64 (.finite s m e hm)) < 2047 := by
  have hbiased : (e + (Format.binary64.exponentBias : Int)
      + (Format.binary64.mantissaBitsWithoutImplicit : Int)).toNat = (e + 1075).toNat := by
    rw [add_assoc]
    rfl
  rw [pack]
  dsimp only
  rw [hbiased, if_neg (by omega)]
  split_ifs
  · rw [exponentField_packComponents, BitVec.toNat_ofNat]
    exact (Nat.mod_le _ _).trans_lt he
  · rw [exponentField_packComponents]
    decide

/-- **A finite number stays finite** when it is written down and read again. -/
lemma isFinite_unpack_pack {b : BitVec 64} (h : exponentField b < 2047) :
    (unpack Format.binary64 (pack Format.binary64 (unpack Format.binary64 b))).isFinite = true := by
  have hones : @unpackExponent Format.binary64 b ≠ -1#_ := fun heq => by
    rw [exponentField, heq] at h
    exact absurd h (by decide)
  rw [isFinite_unpack_iff, unpack]
  dsimp only
  rw [if_neg hones]
  split_ifs with hzero
  · rw [pack, UnpackedFloat.packedZero, exponentField_packComponents]
    decide
  · refine exponentField_pack_finite ?_
    rw [hzero]
    decide
  · refine exponentField_pack_finite ?_
    have hbias : (Format.binary64.exponentBias : Int)
        + (Format.binary64.mantissaBitsWithoutImplicit : Int) = 1075 := rfl
    rw [hbias, sub_add_cancel]
    exact h

lemma isFinite_ofBits {w : UInt64} (h : w.toNat / 2 ^ 52 % 2 ^ 11 < 2047) :
    (Float.ofBits w).isFinite = true :=
  isFinite_unpack_pack (b := w.toBitVec) (by rw [exponentField_eq]; exact h)

lemma isFinite_numberOf (negative : Bool) {bits : Nat} (h : bits < infinityBits) :
    (numberOf negative bits).isFinite = true := by
  have hbits : bits < 2047 * 2 ^ 52 := h
  refine isFinite_ofBits ?_
  rw [UInt64.toNat_ofNat']
  split_ifs
  · change (9223372036854775808 + bits) % 2 ^ 64 / 2 ^ 52 % 2 ^ 11 < 2047
    omega
  · omega

lemma isNaN_of_isFinite {x : Float} (h : x.isFinite = true) : x.isNaN = false := by
  change x.toModel.unpack.isNaN = false
  change x.toModel.unpack.isFinite = true at h
  cases hx : x.toModel.unpack with
  | infinity => rfl
  | notANumber =>
      rw [hx] at h
      exact absurd h (by decide)
  | zero => rfl
  | finite => rfl

end LessonLang
