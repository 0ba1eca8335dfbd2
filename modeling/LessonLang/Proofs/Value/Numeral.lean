import LessonLang.Value
import LessonLang.Proofs.Decimal.Float
import LessonLang.Proofs.Decimal.Numeral
import LessonLang.Proofs.Decimal.Rounding

/-!
The texts that count as numbers.

* A text without a byte of another notation is a literal exactly if it is a decimal numeral
  (`Literal.read?_of_plain`), and no numeral has such a byte (`Numeral.Spells.plain`).
* `Numeral.OtherSpelling` has the texts that spell a number in another notation.
* `Value.toNumber?_string`: a string counts as a number exactly if nothing or a numeral that is not too
  large is left of it without the white space around it.
-/

namespace LessonLang

open Value (otherNotation)

/-- A text without a byte of another notation. -/
def Literal.Plain (t : Text) : Prop := ∀ b ∈ t, b ∉ otherNotation

namespace Numeral

variable {t : Text} {n : Numeral}

/-! ### Bytes of numerals -/

/-- A byte that numerals have. -/
def IsByte (b : UInt8) : Prop := isDigit b = true ∨ b ∈ utf8 "+-.eE"

lemma Sign.isByte {s : Text} {negative : Bool} (h : Sign s negative) : ∀ b ∈ s, IsByte b := by
  rintro b hb
  cases h <;> simp_all [IsByte, utf8] <;> decide

lemma Mantissa.isByte {m ds : Text} {places : Nat} (h : Mantissa m ds places) : ∀ b ∈ m, IsByte b := by
  cases h with
  | whole hds => exact fun b hb => .inl (hds b hb)
  | point hds hps =>
      simp only [List.mem_append, List.mem_cons]
      rintro b (hb | rfl | hb)
      · exact .inl (hds b hb)
      · exact .inr (by decide)
      · exact .inl (hps b hb)

lemma Exponent.isByte {e : Text} {k : Int} (h : Exponent e k) : ∀ b ∈ e, IsByte b := by
  cases h with
  | absent => simp
  | power hmark hs hds =>
      simp only [List.mem_append, List.mem_cons]
      rintro b (rfl | hb | hb)
      · rcases hmark with rfl | rfl <;> exact .inr (by decide)
      · exact hs.isByte b hb
      · exact .inl (hds b hb)

lemma IsByte.notMem_otherNotation {b : UInt8} (h : IsByte b) : b ∉ otherNotation := by
  have hall : ∀ b ∈ otherNotation, isDigit b = false ∧ b ∉ utf8 "+-.eE" := by decide +kernel
  intro hb
  obtain ⟨hdigit, hmem⟩ := hall b hb
  rcases h with h | h
  · simp [h] at hdigit
  · exact hmem h

/-- **A numeral has no byte of another notation.** -/
lemma Spells.plain (h : Spells n t) : Literal.Plain t := by
  obtain ⟨hs, hm, he⟩ := h
  simp only [Literal.Plain, List.mem_append]
  rintro b (hb | hb | hb)
  · exact (hs.isByte b hb).notMem_otherNotation
  · exact (hm.isByte b hb).notMem_otherNotation
  · exact (he.isByte b hb).notMem_otherNotation

lemma not_spells_nil : ¬ Spells n [] := by
  intro h
  have := read?_eq_some_iff.mpr h
  exact absurd this (by simp [read?, takeSign])

/-! ### Other notations -/

/-- **Spellings of numbers in another notation**: underscores, a hexadecimal prefix, infinity and
not-a-number, in any letter case and with or without a sign. -/
inductive OtherSpelling : Text → Prop where
  | underscore {t : Text} (h : 0x5f ∈ t) : OtherSpelling t
  | hexadecimal {s : Text} {negative : Bool} {mark : UInt8} (hs : Sign s negative)
      (hmark : mark = 0x78 ∨ mark = 0x58) (rest : Text) : OtherSpelling (s ++ 0x30 :: mark :: rest)
  | name {s word : Text} {negative : Bool} (hs : Sign s negative)
      (hword : word.map Literal.lowerCase ∈ [utf8 "inf", utf8 "infinity", utf8 "nan"]) :
      OtherSpelling (s ++ word)

end Numeral

namespace Literal

variable {t body : Text}

/-! ### Texts without bytes of other notations -/

lemma Plain.of_subset (h : Plain t) (hsub : body ⊆ t) : Plain body := fun b hb => h b (hsub hb)

lemma Plain.takeSign (h : Plain t) : Plain (Numeral.takeSign t).2 := by
  obtain ⟨s, -, ht⟩ := Numeral.exists_sign t
  refine h.of_subset ?_
  nth_rewrite 2 [ht]
  exact List.subset_append_right s _

lemma isSeparator_of_notMem {b : UInt8} (h : b ∉ otherNotation) : isSeparator b = false := by
  rw [isSeparator, beq_eq_false_iff_ne]
  rintro rfl
  exact h (by decide)

lemma mem_otherNotation_of_lowerCase {b : UInt8} (h : lowerCase b = 0x69 ∨ lowerCase b = 0x6e) :
    b ∈ otherNotation := by
  rw [lowerCase] at h
  split_ifs at h
  · rcases h with h | h
    · obtain rfl : b = 0x49 := UInt8.add_left_inj 0x20 |>.mp h
      decide
    · obtain rfl : b = 0x4e := UInt8.add_left_inj 0x20 |>.mp h
      decide
  · rcases h with rfl | rfl <;> decide

/-- The names of infinity and not-a-number have letters of their own. -/
lemma Plain.map_lowerCase_ne (h : Plain t) :
    t.map lowerCase ∉ [utf8 "inf", utf8 "infinity", utf8 "nan"] := by
  intro hname
  have hletter : ∃ c ∈ t.map lowerCase, c = 0x69 ∨ c = 0x6e := by
    simp only [List.mem_cons, List.not_mem_nil, or_false] at hname
    rcases hname with hname | hname | hname <;> rw [hname] <;> exact ⟨0x6e, by decide, .inr rfl⟩
  obtain ⟨c, hc, hletter⟩ := hletter
  obtain ⟨b, hb, rfl⟩ := List.mem_map.mp hc
  exact h b hb (mem_otherNotation_of_lowerCase hletter)

lemma Plain.underscoresFit (h : Plain t) (isPlace : UInt8 → Bool) (behind : Bool) :
    underscoresFit isPlace behind t = true := by
  induction t generalizing behind with
  | nil => rfl
  | cons b rest ih =>
      rw [Literal.underscoresFit, isSeparator_of_notMem (h b List.mem_cons_self)]
      exact ih (h.of_subset (List.subset_cons_self b rest)) _

lemma Plain.filter_eq (h : Plain t) : t.filter (!isSeparator ·) = t :=
  List.filter_eq_self.mpr fun b hb => by simp [isSeparator_of_notMem (h b hb)]

lemma readDigits?_of_plain (h : Plain t) : readDigits? t = (Numeral.read? t).map .decimal := by
  have hbody := h.takeSign
  rw [readDigits?]
  dsimp only
  split
  · rename_i heq
    exact absurd (by decide) (hbody 0x78 (by simp [heq]))
  · rename_i heq
    exact absurd (by decide) (hbody 0x58 (by simp [heq]))
  · rw [if_pos (hbody.underscoresFit _ _), h.filter_eq]

/-- **A text without a byte of another notation** is a literal exactly if it is a decimal numeral. -/
lemma read?_of_plain (h : Plain t) : read? t = (Numeral.read? t).map .decimal := by
  have hname := h.takeSign.map_lowerCase_ne
  have hname' := h.map_lowerCase_ne
  simp only [List.mem_cons, List.not_mem_nil, or_false, not_or] at hname hname'
  rw [read?]
  simp only [beq_iff_eq, Bool.or_eq_true, hname.1, hname.2.1, hname'.2.2, or_self, if_false]
  exact readDigits?_of_plain h

end Literal

/-- **Spellings of other notations have a byte of these.** -/
lemma Numeral.OtherSpelling.not_plain {t : Text} (h : OtherSpelling t) : ¬ Literal.Plain t := by
  intro hplain
  cases h with
  | underscore h => exact hplain 0x5f h (by decide)
  | hexadecimal hs hmark rest =>
      refine hplain _ (List.mem_append_right _ (List.mem_cons_of_mem _ List.mem_cons_self)) ?_
      rcases hmark with rfl | rfl <;> decide
  | name hs hword => exact (hplain.of_subset (List.subset_append_right _ _)).map_lowerCase_ne hword

namespace Value

/-! ### Strings as numbers -/

lemma readNumber?_of_ne_nil {t : Text} {x : Float} (h : t.trim ≠ []) :
    readNumber? t = some x ↔ Literal.Plain t.trim ∧ x.isNaN = false ∧
      (Literal.read? t.trim).bind Literal.toFloat? = some x := by
  have hplain : (t.trim.any otherNotation.contains) = false ↔ Literal.Plain t.trim := by
    simp [Literal.Plain]
  rw [readNumber?, if_neg (by simpa using h), Option.filter_eq_some_iff, Bool.and_eq_true, Bool.not_eq_true',
    Bool.not_eq_true', hplain]
  tauto

/-- The number nearest to a numeral that is not too large. -/
lemma toFinite?_eq_some_iff {n : Numeral} {x : Float} :
    n.toFinite? = some x ↔ n.magnitude.toRat < tooLarge ∧ x = n.toFloat := by
  rw [Numeral.toFinite?, ← Decimal.nearest_lt_infinityBits_iff]
  split_ifs with h <;> simp [h, eq_comm]

lemma isFinite_toFloat {n : Numeral} (h : n.magnitude.toRat < tooLarge) : n.toFloat.isFinite = true :=
  isFinite_numberOf n.negative ((Decimal.nearest_lt_infinityBits_iff _).mpr h)

/-- **The strings that count as numbers.** White space around a string is ignored. What is left must be
nothing, which is zero, or a decimal numeral that is not too large for a finite number, which is the number
nearest to it. Every spelling of another notation is refused. -/
theorem toNumber?_string (s : Text) :
    (∀ x, (string s).toNumber? = some x ↔
      s.trim = [] ∧ x = 0 ∨
        ∃ n : Numeral, n.Spells s.trim ∧ n.magnitude.toRat < tooLarge ∧ x = n.toFloat) ∧
    (∀ n : Numeral, n.Spells s.trim → n.magnitude.toRat < tooLarge → n.toFloat.isFinite = true) ∧
    (Numeral.OtherSpelling s.trim → (string s).toNumber? = none) := by
  refine ⟨fun x => ?_, fun n _ => isFinite_toFloat, fun h => ?_⟩
  · rw [toNumber?]
    rcases eq_or_ne s.trim [] with hnil | hne
    · have hzero : readNumber? s = some 0 := by rw [readNumber?, if_pos (by simp [hnil])]
      rw [hzero, hnil]
      simp [Numeral.not_spells_nil, eq_comm]
    · simp only [readNumber?_of_ne_nil hne, hne, false_and, false_or]
      constructor
      · rintro ⟨hplain, -, h⟩
        rw [Literal.read?_of_plain hplain] at h
        obtain ⟨l, hl, hx⟩ := Option.bind_eq_some_iff.mp h
        obtain ⟨n, hn, rfl⟩ := Option.map_eq_some_iff.mp hl
        exact ⟨n, Numeral.read?_eq_some_iff.mp hn, toFinite?_eq_some_iff.mp hx⟩
      · rintro ⟨n, hn, hsmall, rfl⟩
        refine ⟨hn.plain, isNaN_of_isFinite (isFinite_toFloat hsmall), ?_⟩
        rw [Literal.read?_of_plain hn.plain, Numeral.read?_eq_some_iff.mpr hn]
        exact toFinite?_eq_some_iff.mpr ⟨hsmall, rfl⟩
  · have hne : s.trim ≠ [] := fun hnil => h.not_plain (by simp [hnil, Literal.Plain])
    refine Option.eq_none_iff_forall_ne_some.mpr fun x hx => h.not_plain ?_
    exact ((readNumber?_of_ne_nil hne).mp hx).1

end Value

end LessonLang
