import LessonLang.Machine.Operator
import LessonLang.Proofs.Decimal.Float

/-!
The orderings and equality of values.

* `Value.Compares a b w` says how two operands compare: as texts if both are strings, else as the numbers
  they count as. These may have no order, and then `w` is nothing.
* `Value.Compares.swap`, `Value.Compares.looseEq_iff`: the order turns round with the operands, and it is
  "equal" exactly for operands that are equal.
* `Operator.comparison_agrees`: the four orderings and equality agree with each other unless an operand is
  not-a-number.
-/

namespace LessonLang

open Operator (compareNumbers compareTexts compareValues operands)

namespace Value

/-- The value is not-a-number. -/
def IsNaN : Value → Prop
  | number x => x.isNaN = true
  | _ => False

/-! ### Texts and numbers -/

lemma compareNumbers_eq (x y : Float) : compareNumbers x y = (orderOf x y).getD .eq := by
  rw [compareNumbers]
  simp only [lt_iff_orderOf, orderOf_swap x y]
  cases orderOf x y with
  | none => rfl
  | some o => cases o <;> rfl

lemma compareTexts_swap (s t : Text) : compareTexts t s = (compareTexts s t).swap := by
  rw [compareTexts, compareTexts]
  split_ifs with hts hst
  · exact absurd (List.lt_trans hts hst) (List.lt_irrefl t)
  all_goals rfl

lemma compareTexts_eq_iff (s t : Text) : compareTexts s t = .eq ↔ s = t := by
  rw [compareTexts]
  split_ifs with hst hts
  · refine iff_of_false (by simp) ?_
    rintro rfl
    exact List.lt_irrefl s hst
  · refine iff_of_false (by simp) ?_
    rintro rfl
    exact List.lt_irrefl s hts
  · exact iff_of_true rfl (List.le_antisymm (List.not_lt.mp hts) (List.not_lt.mp hst))

lemma isNaN_of_toNumber? {a : Value} {x : Float} (hx : a.toNumber? = some x) :
    x.isNaN = true ↔ a.IsNaN := by
  cases a with
  | undefined => exact absurd hx (by simp [toNumber?])
  | absent => exact absurd hx (by simp [toNumber?])
  | number y =>
      obtain rfl := Option.some.inj hx
      rfl
  | bool b =>
      obtain rfl := Option.some.inj hx
      cases b <;> exact iff_of_false (by decide) id
  | string t =>
      refine iff_of_false ?_ id
      rw [toNumber?, readNumber?] at hx
      split_ifs at hx
      · obtain rfl := Option.some.inj hx
        decide
      · obtain ⟨-, hfilter⟩ := Option.filter_eq_some_iff.mp hx
        rw [Bool.and_eq_true, Bool.not_eq_true'] at hfilter
        exact Bool.eq_false_iff.mp hfilter.1

/-! ### Operands that compare -/

/-- **How two operands compare.** Two strings have the order of their texts; all others have that of the
numbers they count as, if those have one. -/
inductive Compares : Value → Value → Option Ordering → Prop where
  | texts (s t : Text) : Compares (string s) (string t) (some (compareTexts s t))
  | numbers {a b : Value} {x y : Float} (hx : a.toNumber? = some x) (hy : b.toNumber? = some y)
      (hkinds : Operator.isString a = false ∨ Operator.isString b = false) :
      Compares a b (orderOf x y)

variable {a b : Value} {w : Option Ordering}

lemma compareValues_of_numbers
    (hkinds : Operator.isString a = false ∨ Operator.isString b = false) :
    compareValues a b = (operands a b).map fun (x, y) => compareNumbers x y := by
  rw [compareValues]
  rintro s t rfl rfl
  exact absurd hkinds (by simp [Operator.isString])

/-- Operands that have no order pass for equal ones. -/
lemma Compares.compareValues_eq (h : Compares a b w) : compareValues a b = .ok (w.getD .eq) := by
  cases h with
  | texts s t => rfl
  | numbers hx hy hkinds =>
      rw [compareValues_of_numbers hkinds, operands, hx, hy, ← compareNumbers_eq]
      rfl

lemma exists_compares {o : Ordering} (h : compareValues a b = .ok o) : ∃ w, Compares a b w := by
  by_cases hkinds : Operator.isString a = false ∨ Operator.isString b = false
  · rw [compareValues_of_numbers hkinds, operands] at h
    cases hx : a.toNumber? with
    | none => exact absurd h (by simp [hx, Except.map])
    | some x =>
        cases hy : b.toNumber? with
        | none => exact absurd h (by simp [hx, hy, Except.map])
        | some y => exact ⟨_, .numbers hx hy hkinds⟩
  · cases a <;> cases b <;> simp [Operator.isString] at hkinds
    exact ⟨_, .texts _ _⟩

lemma Compares.swap (h : Compares a b w) : Compares b a (w.map Ordering.swap) := by
  cases h with
  | texts s t =>
      rw [Option.map_some, ← compareTexts_swap]
      exact .texts t s
  | numbers hx hy hkinds =>
      rw [← orderOf_swap]
      exact .numbers hy hx hkinds.symm

/-- Operands that count as numbers are equal as these, unless they are texts. -/
lemma looseEq_of_numbers {x y : Float} (hx : a.toNumber? = some x) (hy : b.toNumber? = some y)
    (hkinds : Operator.isString a = false ∨ Operator.isString b = false) :
    a.looseEq b = (x == y) := by
  by_cases hbools : (∃ p, a = bool p) ∧ ∃ q, b = bool q
  · -- truth values are compared directly, and count as one and zero
    obtain ⟨⟨p, rfl⟩, q, rfl⟩ := hbools
    obtain rfl := Option.some.inj hx
    obtain rfl := Option.some.inj hy
    cases p <;> cases q <;> decide
  · cases a <;> cases b <;> simp_all [toNumber?, looseEq, Operator.isString]

/-- **Equality is the order "equal"**, also of operands of different kinds. -/
lemma Compares.looseEq_iff (h : Compares a b w) : a.looseEq b = true ↔ w = some .eq := by
  cases h with
  | texts s t => simp [looseEq, compareTexts_eq_iff]
  | numbers hx hy hkinds => rw [looseEq_of_numbers hx hy hkinds, beq_iff_orderOf]

lemma Compares.eq_none_iff (h : Compares a b w) : w = none ↔ a.IsNaN ∨ b.IsNaN := by
  cases h with
  | texts s t => exact iff_of_false (by simp) (by simp [IsNaN])
  | numbers hx hy hkinds =>
      rw [orderOf_eq_none_iff, isNaN_of_toNumber? hx, isNaN_of_toNumber? hy]

end Value

/-! ### Comparisons in programs -/

namespace Operator

open Value (Compares IsNaN)

variable {a b : Value} {w : Option Ordering}

/-- An operation, as it is spelled in a program, gives true. -/
def Holds (op : String) (a b : Value) : Prop := applyOperator (utf8 op) a b = .ok (.bool true)

/-- The spellings of the orderings. -/
def orderings : List (String × Ordered) :=
  [("<", .less), (">", .greater), ("<=", .lessEq), (">=", .greaterEq)]

lemma applyOperator_ordering (a b : Value) (op : String) (o : Ordered) (hop : (op, o) ∈ orderings) :
    applyOperator (utf8 op) a b = (compareValues a b).map fun c => .bool (o.holds c) := by
  have hspelled : ∀ op ∈ orderings, ofText? (utf8 op.1) = some (order op.2) := by decide
  rw [applyOperator, hspelled _ hop]
  rfl

lemma applyOperator_of_compares (h : Compares a b w) (op : String) (o : Ordered)
    (hop : (op, o) ∈ orderings) : applyOperator (utf8 op) a b = .ok (.bool (o.holds (w.getD .eq))) := by
  rw [applyOperator_ordering a b op o hop, h.compareValues_eq]
  rfl

lemma holds_ordering_iff (h : Compares a b w) (op : String) (o : Ordered)
    (hop : (op, o) ∈ orderings) : Holds op a b ↔ o.holds (w.getD .eq) = true := by
  rw [Holds, applyOperator_of_compares h op o hop]
  simp

lemma holds_equal_iff (h : Compares a b w) : Holds "==" a b ↔ w = some .eq := by
  rw [← h.looseEq_iff, Holds, applyOperator, show ofText? (utf8 "==") = some equal by decide]
  simp [apply]

/-- **The orderings and equality agree.** Whenever two operands can be compared, all four orderings give
a truth value, "less" is "greater" with the operands exchanged, and no two of "less", "greater" and "equal"
hold. As long as no operand is not-a-number, "less or equal" and "greater or equal" say what their names
say. For not-a-number they hold of anything, although nothing is less, greater or equal. -/
theorem comparison_agrees {op : String} (hop : op ∈ orderings.map (·.1)) {a b v : Value}
    (h : applyOperator (utf8 op) a b = .ok v) :
    (∀ op ∈ orderings.map (·.1), ∃ p, applyOperator (utf8 op) a b = .ok (.bool p))
    ∧ applyOperator (utf8 "<") a b = applyOperator (utf8 ">") b a
    ∧ ¬(Holds "<" a b ∧ Holds ">" a b) ∧ ¬(Holds "<" a b ∧ Holds "==" a b)
    ∧ ¬(Holds ">" a b ∧ Holds "==" a b)
    ∧ (¬(a.IsNaN ∨ b.IsNaN) → (Holds "<=" a b ↔ Holds "<" a b ∨ Holds "==" a b)
        ∧ (Holds ">=" a b ↔ Holds ">" a b ∨ Holds "==" a b))
    ∧ (a.IsNaN ∨ b.IsNaN → Holds "<=" a b ∧ Holds ">=" a b
        ∧ ¬Holds "<" a b ∧ ¬Holds ">" a b ∧ ¬Holds "==" a b) := by
  obtain ⟨w, hw⟩ : ∃ w, Compares a b w := by
    obtain ⟨⟨op, o⟩, ho, rfl⟩ := List.mem_map.mp hop
    rw [applyOperator_ordering a b op o ho] at h
    cases hc : compareValues a b with
    | error c => exact absurd h (by simp [hc, Except.map])
    | ok c => exact Value.exists_compares hc
  have hless := holds_ordering_iff hw "<" .less (by decide)
  have hgreater := holds_ordering_iff hw ">" .greater (by decide)
  have hlessEq := holds_ordering_iff hw "<=" .lessEq (by decide)
  have hgreaterEq := holds_ordering_iff hw ">=" .greaterEq (by decide)
  refine ⟨fun op hop => ?_, ?_, ?_⟩
  · obtain ⟨⟨op, o⟩, ho, rfl⟩ := List.mem_map.mp hop
    exact ⟨_, applyOperator_of_compares hw op o ho⟩
  · rw [applyOperator_of_compares hw "<" .less (by decide),
      applyOperator_of_compares hw.swap ">" .greater (by decide)]
    cases w with
    | none => rfl
    | some o => cases o <;> rfl
  · rw [hless, hgreater, hlessEq, hgreaterEq, holds_equal_iff hw, ← hw.eq_none_iff]
    cases w with
    | none => decide
    | some o => cases o <;> decide

/-- A numeral is compared with a number that is as large. -/
theorem comparison_agrees_numeral :
    applyOperator (utf8 ">=") (.string (utf8 " 1e1 ")) (.number 10) = .ok (.bool true)
      ∧ Holds "<=" (.string (utf8 " 1e1 ")) (.number 10)
      ∧ ¬Holds "<" (.string (utf8 " 1e1 ")) (.number 10) := by
  have hnumber : (Value.string (utf8 " 1e1 ")).toNumber? = some 10 := by decide +kernel
  have hw : Compares (.string (utf8 " 1e1 ")) (.number 10) (orderOf 10 10) :=
    .numbers hnumber rfl (.inr rfl)
  have hequal : Holds "==" (.string (utf8 " 1e1 ")) (.number 10) := (holds_equal_iff hw).mpr (by decide)
  have hholds : applyOperator (utf8 ">=") (.string (utf8 " 1e1 ")) (.number 10) = .ok (.bool true) :=
    (holds_ordering_iff hw ">=" .greaterEq (by decide)).mpr (by decide)
  have hnan : ¬(IsNaN (.string (utf8 " 1e1 ")) ∨ IsNaN (.number 10)) := by
    rintro (h | h)
    · exact h
    · exact absurd (show (10 : Float).isNaN = true from h) (by decide)
  obtain ⟨-, -, -, hless, -, hagree, -⟩ := comparison_agrees (by decide) hholds
  exact ⟨hholds, (hagree hnan).1.mpr (Or.inr hequal), fun h => hless ⟨h, hequal⟩⟩

/-- **Not-a-number** passes for less than or equal to one, although it is neither less than one nor equal
to it. -/
theorem comparison_disagrees :
    Holds "<=" (.number (0 / 0)) (.number 1)
      ∧ ¬(Holds "<" (.number (0 / 0)) (.number 1) ∨ Holds "==" (.number (0 / 0)) (.number 1)) := by
  have hw : Compares (.number (0 / 0)) (.number 1) (orderOf (0 / 0) 1) := .numbers rfl rfl (.inl rfl)
  have hnone : orderOf (0 / 0) 1 = none := by decide
  rw [hnone] at hw
  rw [holds_ordering_iff hw "<=" .lessEq (by decide),
    holds_ordering_iff hw "<" .less (by decide), holds_equal_iff hw]
  decide

end Operator

end LessonLang
