import LessonLang.Proofs.Decimal.Bits
import LessonLang.Proofs.Decimal.Numeral
import LessonLang.Proofs.Decimal.Shortest

/-!
Written decimals are numerals.

* The decimal numeral of a natural number has its value (`Text.digitsValue_ofNat`).
* `Numeral.Unsigned` is a numeral without its sign. Every layout writes a decimal as one of the same value
  (`Layout.exists_unsigned`).
* `Layout.exists_spells`: a finite number that is written under any layout, with a minus sign if it is
  negative, is a numeral of which it is the nearest number.
-/

namespace LessonLang

open Numeral (Sign Digits Mantissa Exponent Spells)

/-! ### Digits -/

namespace Text

lemma digitsValue_append (t u : Text) :
    digitsValue (t ++ u) = digitsValue t * 10 ^ u.length + digitsValue u := by
  have hfrom : ∀ (u : Text) (n : Nat), u.foldl (fun n b => 10 * n + (b.toNat - 0x30)) n
      = n * 10 ^ u.length + u.foldl (fun n b => 10 * n + (b.toNat - 0x30)) 0 := by
    intro u
    induction u with
    | nil => simp
    | cons b u ih =>
        intro n
        rw [List.foldl_cons, List.foldl_cons, ih, ih (10 * 0 + _), List.length_cons, pow_succ]
        ring
  rw [digitsValue, List.foldl_append, hfrom u]
  rfl

lemma digitsValue_zeros (n : Nat) : digitsValue (List.replicate n 0x30) = 0 := by
  induction n with
  | zero => rfl
  | succ n ih => rw [List.replicate_succ', digitsValue_append, ih]; rfl

lemma toNat_byte_of_isDigit {c : Char} (hc : c.isDigit = true) : (byte c).toNat = c.toNat := by
  have hhigh : c.toNat ≤ 57 := (Char.isDigit_iff_toNat.mp hc).2
  exact Nat.mod_eq_of_lt (show c.toNat < 256 by omega)

lemma isDigit_byte {c : Char} (hc : c.isDigit = true) : isDigit (byte c) = true := by
  obtain ⟨hlow, hhigh⟩ := Char.isDigit_iff_toNat.mp hc
  simp only [isDigit, Bool.and_eq_true, decide_eq_true_eq, UInt8.le_iff_toNat_le,
    toNat_byte_of_isDigit hc]
  exact ⟨hlow, hhigh⟩

lemma digits_ofNat (n : Nat) : Digits (ofNat n) := by
  intro b hb
  obtain ⟨c, hc, rfl⟩ := List.mem_map.mp hb
  exact isDigit_byte (Nat.isDigit_of_mem_toDigits (by decide) (by decide) hc)

lemma ofNat_ne_nil (n : Nat) : ofNat n ≠ [] := by
  rw [ofNat, Ne, List.map_eq_nil_iff]
  exact Nat.toDigits_ne_nil

/-- **The numeral of a natural number** has its value. -/
lemma digitsValue_ofNat (n : Nat) : digitsValue (ofNat n) = n := by
  have hchars : ∀ (cs : List Char) (m : Nat), (∀ c ∈ cs, c.isDigit = true) →
      (cs.map byte).foldl (fun n b => 10 * n + (b.toNat - 0x30)) m = Nat.ofDigitChars 10 cs m := by
    intro cs
    induction cs with
    | nil => exact fun m _ => rfl
    | cons c cs ih =>
        intro m hcs
        obtain ⟨hc, hcs⟩ := List.forall_mem_cons.mp hcs
        rw [List.map_cons, List.foldl_cons, ih _ hcs, Nat.ofDigitChars_cons, toNat_byte_of_isDigit hc]
        rfl
  rw [digitsValue, ofNat, hchars _ _ fun c hc => Nat.isDigit_of_mem_toDigits (by decide) (by decide) hc]
  exact Nat.ofDigitChars_ten_toDigits

end Text

/-! ### Numerals without a sign -/

namespace Numeral

/-- **A numeral without its sign**: a mantissa and an optional exponent. -/
inductive Unsigned : Decimal → Text → Prop where
  | intro {m e ds : Text} {places : Nat} {k : Int} (hm : Mantissa m ds places) (he : Exponent e k) :
      Unsigned ⟨digitsValue ds, k - places⟩ (m ++ e)

lemma Unsigned.spells {d : Decimal} {s t : Text} {negative : Bool} (h : Unsigned d t)
    (hs : Sign s negative) : Spells ⟨negative, d⟩ (s ++ t) := by
  obtain ⟨hm, he⟩ := h
  exact .intro hs hm he

end Numeral

open Numeral (Unsigned)

namespace Layout

lemma digits_append {t u : Text} (ht : Digits t) (hu : Digits u) : Digits (t ++ u) := fun b hb =>
  (List.mem_append.mp hb).elim (ht b) (hu b)

lemma digits_zeros (n : Nat) : Digits (List.replicate n 0x30) := fun b hb => by
  rw [List.eq_of_mem_replicate hb]
  decide

/-- Digits with a point have the value of the decimal. -/
lemma positional_unsigned (d : Decimal) : ∃ d', d'.toRat = d.toRat ∧ Unsigned d' (positional d) := by
  have hds := Text.digits_ofNat d.digits
  rw [positional]
  dsimp only
  split_ifs with h
  · -- no digit stands behind the point
    obtain ⟨k, hk⟩ := Int.eq_ofNat_of_zero_le h
    refine ⟨⟨digitsValue (d.digitText ++ List.replicate d.exponent.toNat 0x30), 0 - (0 : Nat)⟩, ?_, ?_⟩
    · rw [Text.digitsValue_append, Text.digitsValue_zeros, Decimal.digitText, Text.digitsValue_ofNat,
        Decimal.toRat, Decimal.toRat, List.length_replicate, hk, Int.toNat_natCast, zpow_natCast]
      simp
    · have := Unsigned.intro (.whole (digits_append hds (digits_zeros d.exponent.toNat))
        (by simpa using fun hnil => absurd hnil (Text.ofNat_ne_nil d.digits))) Exponent.absent
      rwa [List.append_nil] at this
  · have hlength : (-d.exponent).toNat < (List.replicate ((-d.exponent).toNat + 1 - d.digitText.length)
        0x30 ++ d.digitText).length := by
      rw [List.length_append, List.length_replicate]
      omega
    have hvalue : digitsValue (List.replicate ((-d.exponent).toNat + 1 - d.digitText.length) 0x30
        ++ d.digitText) = d.digits := by
      rw [Text.digitsValue_append, Text.digitsValue_zeros, zero_mul, zero_add]
      exact Text.digitsValue_ofNat d.digits
    have hall := digits_append (digits_zeros ((-d.exponent).toNat + 1 - d.digitText.length)) hds
    change Digits (_ ++ d.digitText) at hall
    generalize List.replicate ((-d.exponent).toNat + 1 - d.digitText.length) 0x30 ++ d.digitText = padded
      at *
    have hsplit := List.take_append_drop (padded.length - (-d.exponent).toNat) padded
    refine ⟨d, rfl, ?_⟩
    have := Unsigned.intro (.point (fun b hb => hall b (List.mem_of_mem_take hb))
      (fun b hb => hall b (List.mem_of_mem_drop hb)) (by
        rw [hsplit]
        exact List.ne_nil_of_length_pos (by omega))) Exponent.absent
    have hplaces : 0 - ((padded.drop (padded.length - (-d.exponent).toNat)).length : Int) = d.exponent := by
      rw [List.length_drop]
      omega
    rwa [hsplit, hvalue, List.append_nil, hplaces] at this

lemma exponent_exponentText (padNegative : Bool) (e : Int) :
    Exponent (0x65 :: exponentText padNegative e) e := by
  obtain ⟨ds, hds, hdigits, hne, hvalue⟩ : ∃ ds, exponentText padNegative e
      = (if 0 ≤ e then [0x2b] else [0x2d]) ++ ds ∧ Digits ds ∧ ds ≠ [] ∧ digitsValue ds = e.natAbs := by
    rw [exponentText]
    have hzero : Digits [0x30] := digits_zeros 1
    split_ifs with hsign hpad hpad
    · exact ⟨_, rfl, digits_append hzero (Text.digits_ofNat _), by simp, Text.digitsValue_ofNat _⟩
    · exact ⟨_, rfl, Text.digits_ofNat _, Text.ofNat_ne_nil _, Text.digitsValue_ofNat _⟩
    · exact ⟨_, rfl, digits_append hzero (Text.digits_ofNat _), by simp, Text.digitsValue_ofNat _⟩
    · exact ⟨_, rfl, Text.digits_ofNat _, Text.ofNat_ne_nil _, Text.digitsValue_ofNat _⟩
  rw [hds]
  split_ifs with hsign
  · have := Exponent.power (.inl rfl) .plus hdigits hne
    rwa [if_neg Bool.false_ne_true, hvalue, Int.natAbs_of_nonneg hsign] at this
  · have := Exponent.power (.inl rfl) .minus hdigits hne
    rwa [if_pos rfl, hvalue, Int.ofNat_natAbs_of_nonpos (by omega), neg_neg] at this

/-- One digit, a point and an exponent have the value of the decimal. -/
lemma scientific_unsigned (padNegative : Bool) (d : Decimal) :
    ∃ d', d'.toRat = d.toRat ∧ Unsigned d' (scientific padNegative d) := by
  have hds := Text.digits_ofNat d.digits
  have hvalue := Text.digitsValue_ofNat d.digits
  have hne := Text.ofNat_ne_nil d.digits
  have hpower : ∀ places : Nat, places + 1 = d.digitText.length →
      Decimal.toRat ⟨d.digits, d.power - places⟩ = d.toRat := by
    intro places hplaces
    rw [Decimal.power, Decimal.toRat, Decimal.toRat]
    simp only [beq_iff_eq]
    split_ifs with hzero
    · rw [hzero]
      simp
    · rw [← hplaces]
      congr 2
      push_cast
      ring
  have hexponent := exponent_exponentText padNegative d.power
  rw [scientific]
  change Digits d.digitText at hds
  change digitsValue d.digitText = d.digits at hvalue
  change d.digitText ≠ [] at hne
  obtain ⟨first, rest, hcons⟩ := List.exists_cons_of_ne_nil hne
  cases rest with
  | nil =>
      refine ⟨_, hpower 0 (by rw [hcons]; rfl), ?_⟩
      have := Unsigned.intro (.whole hds hne) hexponent
      rw [hvalue] at this
      simpa [hcons] using this
  | cons second rest =>
      refine ⟨_, hpower (second :: rest).length (by rw [hcons]; rfl), ?_⟩
      rw [hcons] at hds hvalue
      have hfirst : Digits [first] := fun b hb => hds b (by simp_all)
      have hrest : Digits (second :: rest) := fun b hb => hds b (List.mem_cons_of_mem _ hb)
      have := Unsigned.intro (.point hfirst hrest (by simp)) hexponent
      rw [List.singleton_append, hvalue] at this
      simpa [hcons] using this

/-- **Every layout writes a decimal as a numeral** of the same value. -/
lemma exists_unsigned (l : Layout) (d : Decimal) :
    ∃ d', d'.toRat = d.toRat ∧ Unsigned d' (l.write d) := by
  rw [write]
  split_ifs
  · exact positional_unsigned d
  · exact scientific_unsigned l.padNegative d

/-- **A finite number that is written under any layout** is a numeral of which it is the nearest number. -/
theorem exists_spells (l : Layout) {x : Float} (hx : x.isFinite = true) :
    ∃ n : Numeral, n.Spells (if (splitSign x).1 then 0x2d :: l.write (Decimal.shortest (splitSign x).2)
      else l.write (Decimal.shortest (splitSign x).2)) ∧ n.toFinite? = some x := by
  have hfinite := (isFinite_iff_splitSign x).mp hx
  obtain ⟨d, hd, hwritten⟩ := l.exists_unsigned (Decimal.shortest (splitSign x).2)
  have hnearest := Decimal.nearest_of_toRat_eq hfinite hd
  refine ⟨⟨(splitSign x).1, d⟩, ?_, ?_⟩
  · cases (splitSign x).1 with
    | true => exact hwritten.spells .minus
    | false => exact hwritten.spells .absent
  · rw [Numeral.toFinite?, Numeral.toFloat]
    dsimp only
    rw [hnearest, if_pos hfinite, numberOf_splitSign]

end Layout

end LessonLang
