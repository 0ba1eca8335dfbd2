import LessonLang.Proofs.Decimal.Float

/-!
Numbers and their bits.

* `pack_unpack`: bits that are read as a number and written down again stay as they are, so a number is
  made from its own bits (`ofBits_toBits`).
* `numberOf_splitSign`: a number is made from its sign and its magnitude.
* `isFinite_iff_splitSign`: the finite numbers are those with a magnitude below that of infinity.
-/

namespace LessonLang

open Float.Model (Format UnpackedFloat)

open Float.Model.UnpackedFloat (pack packComponents unpack unpackExponent unpackMantissa unpackSign Sign)

/-! ### Reading bits and writing them down -/

lemma toBitVec_ofBitVec (s : BitVec 1) : (Sign.ofBitVec s).toBitVec = s := by
  revert s
  decide

/-- Bits are their sign, their exponent and their significand. -/
lemma packComponents_unpack (b : BitVec 64) :
    packComponents Format.binary64 (Sign.ofBitVec (@unpackSign Format.binary64 b))
      (@unpackExponent Format.binary64 b) (@unpackMantissa Format.binary64 b) = b := by
  rw [packComponents, toBitVec_ofBitVec, unpackSign, unpackExponent, unpackMantissa]
  refine BitVec.eq_of_getElem_eq fun i hi => ?_
  have hi' : i < 64 := hi
  simp only [BitVec.getElem_append, BitVec.getElem_cast, BitVec.extractLsb,
    BitVec.getElem_extractLsb', Nat.zero_add]
  split_ifs with hlow hmiddle
  · exact BitVec.getLsbD_eq_getElem hi'
  · rw [show 52 + (i - 52) = i by omega]
    exact BitVec.getLsbD_eq_getElem hi'
  · rw [show 52 + 11 + (i - 52 - 11) = i by omega]
    exact BitVec.getLsbD_eq_getElem hi'

lemma log2_of_lt {m : Nat} (hpos : 0 < m) (hm : m < 2 ^ 52) : m.log2 + 1 ≠ Format.binary64.mantissaBits := by
  have hlog : m.log2 < 52 := (Nat.log2_lt hpos.ne').mpr hm
  rw [show Format.binary64.mantissaBits = 53 from rfl]
  omega

/-- A significand with its leading bit has 53 bits, and the others stay as they are. -/
lemma leading_append (m : BitVec 52) :
    (1#1 ++ m).toNat.log2 + 1 = Format.binary64.mantissaBits ∧ BitVec.ofNat 52 (1#1 ++ m).toNat = m := by
  have hm := m.isLt
  have hvalue : (1#1 ++ m).toNat = 2 ^ 52 + m.toNat := by
    rw [BitVec.toNat_append, Nat.shiftLeft_eq, show (1#1).toNat = 1 from rfl, one_mul,
      ← mul_one (2 ^ 52), ← Nat.two_pow_add_eq_or_of_lt hm]
  rw [hvalue]
  constructor
  · rw [(Nat.log2_eq_iff (by omega)).mpr ⟨Nat.le_add_right _ _, by omega⟩]
    rfl
  · refine BitVec.eq_of_toNat_eq ?_
    rw [BitVec.toNat_ofNat, Nat.add_mod_left, Nat.mod_eq_of_lt hm]

/-- **Bits that are read and written down** stay as they are. -/
lemma pack_unpack {b : BitVec 64} (h : Format.binary64.Valid b) :
    pack Format.binary64 (unpack Format.binary64 b) = b := by
  have hcomponents := packComponents_unpack b
  have hbias : ∀ e d : Int, (e - ((Format.binary64.exponentBias : Int) + (52 : Nat)) + d
      + Format.binary64.exponentBias + (52 : Nat)) = e + d := fun e d => by ring
  rw [unpack]
  dsimp only
  split_ifs with hexp hman hexp hman
  · rw [hexp, hman] at hcomponents
    exact hcomponents
  · exact (h.eq_packedNaN hexp hman).symm
  · rw [hexp, hman] at hcomponents
    exact hcomponents
  · have hpos : 0 < (@unpackMantissa Format.binary64 b).toNat := by
      simpa [BitVec.toNat_pos, BitVec.pos_iff_ne_zero] using hman
    rw [pack]
    dsimp only
    rw [hbias, hexp, if_neg (by decide), if_neg (log2_of_lt hpos (BitVec.isLt _)), BitVec.ofNat_toNat,
      BitVec.setWidth_eq]
    rwa [hexp] at hcomponents
  · obtain ⟨hlog, hlow⟩ := leading_append (@unpackMantissa Format.binary64 b)
    have hexp' : ¬2 ^ 11 ≤ (@unpackExponent Format.binary64 b).toNat + 1 := by
      have hlt : (@unpackExponent Format.binary64 b).toNat < 2 ^ 11 := BitVec.isLt _
      have hne : (@unpackExponent Format.binary64 b).toNat ≠ 2047 := fun heq =>
        ‹¬_ = -1#_› (BitVec.eq_of_toNat_eq heq)
      omega
    have hbias' := hbias (@unpackExponent Format.binary64 b).toNat 0
    rw [add_zero, add_zero] at hbias'
    rw [pack]
    dsimp only
    rw [hbias', Int.toNat_natCast]
    refine (if_neg hexp').trans ?_
    rw [if_pos hlog, hlow, BitVec.ofNat_toNat, BitVec.setWidth_eq]
    exact hcomponents

/-! ### Numbers -/

/-- **A number is made from its own bits.** -/
lemma ofBits_toBits (x : Float) : Float.ofBits x.toBits = x := by
  have hbits : (Float.Model.ofBits x.toModel.toBits).toBits = x.toModel.toBits :=
    congrArg UInt64.ofBitVec (pack_unpack x.toModel.valid)
  obtain ⟨⟨bits, hvalid⟩⟩ := x
  refine congrArg Float.ofModel ?_
  cases hm : Float.Model.ofBits bits with
  | mk bits' hvalid' =>
      obtain rfl : bits' = bits := by rwa [hm] at hbits
      exact hm

/-- **A number is made from its sign and its magnitude.** -/
lemma numberOf_splitSign (x : Float) : numberOf (splitSign x).1 (splitSign x).2 = x := by
  have hlt := x.toBits.toNat_lt
  have hbits : (if decide (signBit ≤ x.toBits.toNat) = true then signBit + x.toBits.toNat % signBit
      else x.toBits.toNat % signBit) = x.toBits.toNat := by
    rw [signBit]
    split_ifs with h <;> rw [decide_eq_true_iff] at h <;> omega
  rw [numberOf, splitSign]
  dsimp only
  rw [hbits]
  exact (congrArg Float.ofBits x.toBits.ofNat_toNat).trans (ofBits_toBits x)

/-- **The finite numbers** have a magnitude below that of infinity. -/
lemma isFinite_iff_splitSign (x : Float) : x.isFinite = true ↔ (splitSign x).2 < infinityBits := by
  change (unpack Format.binary64 x.toBits.toBitVec).isFinite = true ↔ _
  rw [isFinite_unpack_iff, exponentField_eq, splitSign]
  change x.toBits.toNat / 2 ^ 52 % 2 ^ 11 < 2047 ↔ x.toBits.toNat % signBit < infinityBits
  rw [signBit, infinityBits]
  omega

end LessonLang
