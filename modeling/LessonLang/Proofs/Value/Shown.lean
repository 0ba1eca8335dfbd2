import LessonLang.Proofs.Decimal.Layout
import LessonLang.Proofs.Text.Trim
import LessonLang.Proofs.Value.Compare
import LessonLang.Proofs.Value.Numeral

/-!
Printed numbers read back.

* A numeral has no white space around it (`Numeral.Spells.trim_eq`).
* `numberShown_of_isFinite`: whole or not, a finite number is printed under one of two layouts, and
  `readNumber?_numberShown`: so it is read back as it was. The names of the other numbers are not read
  (`readNumber?_numberShown_of_not_isFinite`).
* `Value.shown_reads_back`: what this means for values, and that no two finite numbers print alike.
-/

namespace LessonLang

open Value (readNumber?)

/-! ### Numerals without white space -/

namespace Numeral

variable {n : Numeral} {t : Text} {b : UInt8}

lemma IsByte.lt (h : IsByte b) : b.toNat < 128 ∧ isBlank b.toNat = false := by
  have hall : ∀ n < 256, isDigit (UInt8.ofNat n) = true ∨ UInt8.ofNat n ∈ utf8 "+-.eE" →
      n < 128 ∧ isBlank n = false := by
    decide +kernel
  exact hall b.toNat b.toNat_lt (by simpa [IsByte] using h)

lemma Spells.isByte (h : Spells n t) : ∀ b ∈ t, IsByte b := by
  obtain ⟨hs, hm, he⟩ := h
  simp only [List.mem_append]
  rintro b (hb | hb | hb)
  · exact hs.isByte b hb
  · exact hm.isByte b hb
  · exact he.isByte b hb

/-- **A numeral has no white space around it.** -/
lemma Spells.trim_eq (h : Spells n t) : t.trim = t := by
  refine Text.trim_eq_self fun p hp => ?_
  rw [Text.pieces_of_lt fun b hb => (h.isByte b hb).lt.1] at hp
  obtain ⟨b, hb, rfl⟩ := List.mem_map.mp hp
  obtain ⟨hlt, hblank⟩ := (h.isByte b hb).lt
  have htoNat : (Char.ofNat b.toNat).toNat = b.toNat := Text.toNat_ofNat (Or.inl (by omega))
  rw [Piece.isBlank, Piece.codePoint, htoNat, hblank]

/-- A numeral of a finite number counts as that number. -/
lemma Spells.readNumber?_eq {x : Float} (h : Spells n t) (hx : n.toFinite? = some x) :
    readNumber? t = some x := by
  have hne : t.trim ≠ [] := by
    rw [h.trim_eq]
    rintro rfl
    exact not_spells_nil h
  obtain ⟨hsmall, rfl⟩ := Value.toFinite?_eq_some_iff.mp hx
  rw [Value.readNumber?_of_ne_nil hne, h.trim_eq, Literal.read?_of_plain h.plain,
    read?_eq_some_iff.mpr h]
  exact ⟨h.plain, isNaN_of_isFinite (Value.isFinite_toFloat hsmall), hx⟩

end Numeral

/-! ### Printed numbers -/

variable {x y : Float}

lemma numberShown_eq (x : Float) : numberShown x =
    if infinityBits < (splitSign x).2 then utf8 "NaN"
    else if (splitSign x).2 = infinityBits then
      if (splitSign x).1 then 0x2d :: utf8 "Infinity" else utf8 "Infinity"
    else
      let d := Decimal.shortest (splitSign x).2
      let l := if (Binary.ofBits (splitSign x).2).isWhole ∧ d.power ≤ wholeLayout.most then wholeLayout
        else fractionLayout
      if (splitSign x).1 then 0x2d :: l.write d else l.write d := by
  rw [numberShown]
  simp only [Bool.and_eq_true, decide_eq_true_eq, beq_iff_eq]
  split_ifs <;> rfl

/-- **A finite number is printed under a layout.** -/
lemma numberShown_of_isFinite (hx : x.isFinite = true) : ∃ l : Layout,
    numberShown x = if (splitSign x).1 then 0x2d :: l.write (Decimal.shortest (splitSign x).2)
      else l.write (Decimal.shortest (splitSign x).2) := by
  have hfinite := (isFinite_iff_splitSign x).mp hx
  rw [numberShown_eq, if_neg hfinite.le.not_gt, if_neg hfinite.ne]
  exact ⟨_, rfl⟩

/-- **A printed number is read back.** -/
lemma readNumber?_numberShown (hx : x.isFinite = true) : readNumber? (numberShown x) = some x := by
  obtain ⟨l, hl⟩ := numberShown_of_isFinite hx
  obtain ⟨n, hn, hvalue⟩ := l.exists_spells hx
  rw [hl]
  exact hn.readNumber?_eq hvalue

/-- The names of infinity and not-a-number are no numbers. -/
lemma readNumber?_numberShown_of_not_isFinite (hx : x.isFinite = false) :
    readNumber? (numberShown x) = none := by
  have hbits : ¬(splitSign x).2 < infinityBits := by
    rw [← isFinite_iff_splitSign, hx]
    exact Bool.false_ne_true
  rw [numberShown_eq]
  split_ifs with hnan heq hsign
  · decide +kernel
  · decide +kernel
  · decide +kernel
  all_goals exact absurd (lt_of_le_of_ne (not_lt.mp hnan) heq) hbits

lemma orderOf_self (hx : x.isNaN = false) : orderOf x x = some .eq := by
  have hswap := orderOf_swap x x
  cases h : orderOf x x with
  | none =>
      exact absurd (orderOf_eq_none_iff.mp h) (by rw [hx]; decide)
  | some o =>
      rw [h] at hswap
      cases o with
      | eq => rfl
      | lt => exact absurd hswap (by decide)
      | gt => exact absurd hswap (by decide)

namespace Value

lemma toNumber?_shown (x : Float) :
    (string (numberShown x)).toNumber? = if x.isFinite then some x else none := by
  split_ifs with hx
  · exact readNumber?_numberShown hx
  · exact readNumber?_numberShown_of_not_isFinite (by simpa using hx)

lemma looseEq_shown (x : Float) : (string (numberShown x)).looseEq (number x) = x.isFinite
    ∧ (number x).looseEq (string (numberShown x)) = x.isFinite := by
  have hshown := toNumber?_shown x
  cases hx : x.isFinite with
  | true =>
      rw [hx, if_pos rfl] at hshown
      have hself : (x == x) = true := beq_iff_orderOf.mpr (orderOf_self (isNaN_of_isFinite hx))
      rw [looseEq_of_numbers hshown rfl (.inr rfl), looseEq_of_numbers rfl hshown (.inl rfl), hself]
      exact ⟨rfl, rfl⟩
  | false =>
      rw [hx, if_neg Bool.false_ne_true] at hshown
      simp [looseEq, hshown]

/-- **Printed numbers read back.** A finite number is printed as a text that counts as the number itself, with
its sign and to the last bit; for the infinities and not-a-number it counts as none. So a number that is joined
with the empty text equals the number if it is finite and only then, and two finite numbers with different
bits are never printed alike. -/
theorem shown_reads_back (x : Float) :
    (string (number x).shown).toNumber? = (if x.isFinite then some x else none)
    ∧ applyOperator (utf8 "+") (string []) (number x) = .ok (string (number x).shown)
    ∧ applyOperator (utf8 "+") (number x) (string []) = .ok (string (number x).shown)
    ∧ (string (number x).shown).looseEq (number x) = x.isFinite
    ∧ (number x).looseEq (string (number x).shown) = x.isFinite
    ∧ ∀ y : Float, x.isFinite = true → y.isFinite = true → x.toBits ≠ y.toBits →
      (number x).shown ≠ (number y).shown := by
  have hadd : Operator.ofText? (utf8 "+") = some .add := by decide
  obtain ⟨hleft, hright⟩ := looseEq_shown x
  refine ⟨toNumber?_shown x, ?_, ?_, hleft, hright, fun y hx hy hbits hshown => hbits ?_⟩
  · rw [applyOperator, hadd]
    rfl
  · rw [applyOperator, hadd]
    exact congrArg (fun t => Except.ok (string t)) (List.append_nil _)
  · have hread := readNumber?_numberShown hx
    rw [show numberShown x = numberShown y from hshown, readNumber?_numberShown hy] at hread
    rw [Option.some.inj hread]

/-- Negative zero is read back with its sign, and the number below it is printed otherwise. -/
theorem shown_reads_back_least :
    (string (number (numberOf true 0)).shown).toNumber? = some (numberOf true 0)
      ∧ (number (numberOf true 0)).shown ≠ (number (numberOf true 1)).shown := by
  have hzero : (numberOf true 0).isFinite = true := by decide +kernel
  obtain ⟨hread, -, -, -, -, hdiffer⟩ := shown_reads_back (numberOf true 0)
  refine ⟨by rw [hread, if_pos hzero], hdiffer _ hzero (by decide +kernel) (by decide +kernel)⟩

example : (number (numberOf true 1)).shown = utf8 "-5e-324" := by decide +kernel

end Value

end LessonLang
