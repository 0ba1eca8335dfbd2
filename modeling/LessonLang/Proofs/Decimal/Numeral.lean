import Mathlib.Tactic
import LessonLang.Decimal.Numeral

/-!
Decimal numerals as a grammar.

* `Numeral.Spells n t` says, without a reader, that a text is a sign, a mantissa and an exponent, and which
  numeral these are.
* `Numeral.read?_eq_some_iff`: reading gives exactly the numerals that the grammar gives.
-/

namespace LessonLang

namespace Numeral

/-! ### The grammar -/

/-- Decimal digits and nothing else, maybe none. -/
def Digits (t : Text) : Prop := ∀ b ∈ t, isDigit b = true

/-- An optional sign, and whether it is a minus. -/
inductive Sign : Text → Bool → Prop where
  | absent : Sign [] false
  | plus : Sign [0x2b] false
  | minus : Sign [0x2d] true

/-- A mantissa: at least one digit and at most one point. It has the given digits, and so many of them
stand behind the point. -/
inductive Mantissa : Text → Text → Nat → Prop where
  | whole {ds : Text} (hds : Digits ds) (hne : ds ≠ []) : Mantissa ds ds 0
  | point {ds ps : Text} (hds : Digits ds) (hps : Digits ps) (hne : ds ++ ps ≠ []) :
      Mantissa (ds ++ 0x2e :: ps) (ds ++ ps) ps.length

/-- An optional exponent: `e` or `E`, an optional sign and at least one digit. -/
inductive Exponent : Text → Int → Prop where
  | absent : Exponent [] 0
  | power {mark : UInt8} {s ds : Text} {negative : Bool} (hmark : mark = 0x65 ∨ mark = 0x45)
      (hs : Sign s negative) (hds : Digits ds) (hne : ds ≠ []) :
      Exponent (mark :: (s ++ ds)) (if negative then -(digitsValue ds : Int) else digitsValue ds)

/-- **A numeral as text**: an optional sign, a mantissa and an optional exponent. -/
inductive Spells : Numeral → Text → Prop where
  | intro {s m e ds : Text} {negative : Bool} {places : Nat} {k : Int} (hs : Sign s negative)
      (hm : Mantissa m ds places) (he : Exponent e k) :
      Spells ⟨negative, ⟨digitsValue ds, k - places⟩⟩ (s ++ (m ++ e))

variable {t e : Text} {b : UInt8}

/-! ### Signs and digits -/

lemma exists_sign (t : Text) : ∃ s, Sign s (takeSign t).1 ∧ t = s ++ (takeSign t).2 := by
  rw [takeSign.eq_def]
  split
  · exact ⟨_, .plus, rfl⟩
  · exact ⟨_, .minus, rfl⟩
  · exact ⟨_, .absent, rfl⟩

lemma Sign.takeSign_append {s : Text} {negative : Bool} (h : Sign s negative)
    (ht : ∀ b ∈ t.head?, b ≠ 0x2b ∧ b ≠ 0x2d) : takeSign (s ++ t) = (negative, t) := by
  cases h with
  | plus => rfl
  | minus => rfl
  | absent =>
      rw [List.nil_append, takeSign.eq_def]
      split
      · exact absurd rfl (ht 0x2b rfl).1
      · exact absurd rfl (ht 0x2d rfl).2
      · rfl

lemma ne_sign_of_isDigit (h : isDigit b = true) : b ≠ 0x2b ∧ b ≠ 0x2d :=
  ⟨fun heq => absurd h (by rw [heq]; decide), fun heq => absurd h (by rw [heq]; decide)⟩

lemma ne_sign_of_digits {ds : Text} (hds : Digits ds) (hne : ds ≠ []) :
    ∀ b ∈ (ds ++ t).head?, b ≠ 0x2b ∧ b ≠ 0x2d := by
  obtain ⟨d, ds, rfl⟩ := List.exists_cons_of_ne_nil hne
  rintro b ⟨⟩
  exact ne_sign_of_isDigit (hds d List.mem_cons_self)

lemma digits_takeWhile (t : Text) : Digits (t.takeWhile isDigit) := fun _ hb =>
  List.all_eq_true.mp List.all_takeWhile _ hb

lemma Digits.span_append {ds : Text} (hds : Digits ds) (ht : ∀ b ∈ t.head?, isDigit b = false) :
    (ds ++ t).takeWhile isDigit = ds ∧ (ds ++ t).dropWhile isDigit = t := by
  rw [List.takeWhile_append_of_pos hds, List.dropWhile_append_of_pos hds]
  cases t with
  | nil => simp
  | cons b t => simp [ht b rfl]

/-! ### Exponents -/

lemma Exponent.head_ne {k : Int} (h : Exponent e k) :
    ∀ b ∈ e.head?, isDigit b = false ∧ b ≠ 0x2e := by
  cases h with
  | absent => exact fun b hb => absurd hb (by simp)
  | power hmark =>
      rintro b ⟨⟩
      rcases hmark with rfl | rfl <;> decide

lemma readExponent?_eq_some_iff {k : Int} : readExponent? e = some k ↔ Exponent e k := by
  constructor
  · intro h
    cases e with
    | nil =>
        obtain rfl := Option.some.inj h
        exact .absent
    | cons mark rest =>
        obtain ⟨s, hs, hrest⟩ := exists_sign rest
        rw [readExponent?] at h
        split_ifs at h with hmark
        simp only [Option.ite_none_right_eq_some, Bool.and_eq_true, Bool.not_eq_true',
          List.isEmpty_eq_false_iff, List.all_eq_true, Option.some.injEq] at h
        obtain ⟨⟨hne, hds⟩, rfl⟩ := h
        have hpower := Exponent.power (by simpa using hmark) hs hds hne
        rwa [← hrest] at hpower
  · rintro (_ | ⟨hmark, hs, hds, hne⟩)
    · rfl
    · rename_i mark s ds negative
      have hsign := hs.takeSign_append (t := ds) (by simpa using @ne_sign_of_digits [] ds hds hne)
      rw [readExponent?, if_pos (by simpa using hmark), hsign]
      simp only [List.isEmpty_eq_false_iff.mpr hne, List.all_eq_true.mpr hds, Bool.not_false,
        Bool.and_self, if_true]

/-! ### Numerals -/

section Body

variable {negative : Bool} {ds ps : Text}

lemma read?_of_whole (ht : takeSign t = (negative, ds ++ e)) (hds : Digits ds)
    (he : ∀ b ∈ e.head?, isDigit b = false ∧ b ≠ 0x2e) :
    read? t = if ds = [] then none else
      (readExponent? e).map fun k => ⟨negative, ⟨digitsValue ds, k - (0 : Nat)⟩⟩ := by
  obtain ⟨htake, hdrop⟩ := hds.span_append fun b hb => (he b hb).1
  rw [read?, ht]
  simp only [htake, hdrop]
  split
  · exact absurd rfl (he 0x2e rfl).2
  · simp

lemma read?_of_point (ht : takeSign t = (negative, ds ++ 0x2e :: (ps ++ e))) (hds : Digits ds)
    (hps : Digits ps) (he : ∀ b ∈ e.head?, isDigit b = false) :
    read? t = if ds ++ ps = [] then none else
      (readExponent? e).map fun k => ⟨negative, ⟨digitsValue (ds ++ ps), k - ps.length⟩⟩ := by
  have hpoint : ∀ b ∈ (0x2e :: (ps ++ e)).head?, isDigit b = false := by
    rintro b ⟨⟩
    decide
  obtain ⟨htake, hdrop⟩ := hds.span_append hpoint
  obtain ⟨htake', hdrop'⟩ := hps.span_append he
  rw [read?, ht]
  simp only [htake, hdrop, htake', hdrop']
  simp

/-- Every text has digits in front, maybe with a point among or around them. -/
lemma exists_digits (body : Text) :
    (∃ ds e, Digits ds ∧ (∀ b ∈ e.head?, isDigit b = false ∧ b ≠ 0x2e) ∧ body = ds ++ e) ∨
      ∃ ds ps e, Digits ds ∧ Digits ps ∧ (∀ b ∈ e.head?, isDigit b = false) ∧
        body = ds ++ 0x2e :: (ps ++ e) := by
  have hhead : ∀ u : Text, ∀ b ∈ (u.dropWhile isDigit).head?, isDigit b = false := fun u b hb => by
    have := List.head?_dropWhile_not isDigit u
    rw [Option.mem_def.mp hb] at this
    exact this
  have hsplit : ∀ u : Text, u = u.takeWhile isDigit ++ u.dropWhile isDigit := fun u =>
    List.takeWhile_append_dropWhile.symm
  by_cases hpoint : (body.dropWhile isDigit).head? = some 0x2e
  · obtain ⟨u, hu⟩ := List.head?_eq_some_iff.mp hpoint
    refine .inr ⟨_, _, u.dropWhile isDigit, digits_takeWhile body, digits_takeWhile u, hhead u, ?_⟩
    rw [← hsplit u, ← hu]
    exact hsplit body
  · refine .inl ⟨_, _, digits_takeWhile body, fun b hb => ⟨hhead body b hb, ?_⟩, hsplit body⟩
    rintro rfl
    exact hpoint hb

end Body

/-- **Reading gives exactly the numerals of the grammar.** -/
theorem read?_eq_some_iff {n : Numeral} : read? t = some n ↔ Spells n t := by
  constructor
  · intro h
    obtain ⟨s, hs, ht⟩ := exists_sign t
    have hpair : takeSign t = ((takeSign t).1, (takeSign t).2) := rfl
    generalize (takeSign t).1 = negative at *
    generalize (takeSign t).2 = body at *
    rw [ht]
    obtain ⟨ds, e, hds, he, rfl⟩ | ⟨ds, ps, e, hds, hps, he, rfl⟩ := exists_digits body
    · rw [read?_of_whole hpair hds he] at h
      split_ifs at h with hne
      obtain ⟨k, hk, rfl⟩ := Option.map_eq_some_iff.mp h
      exact .intro hs (.whole hds hne) (readExponent?_eq_some_iff.mp hk)
    · rw [read?_of_point hpair hds hps he] at h
      split_ifs at h with hne
      obtain ⟨k, hk, rfl⟩ := Option.map_eq_some_iff.mp h
      have := Spells.intro hs (.point hds hps hne) (readExponent?_eq_some_iff.mp hk)
      rwa [List.append_assoc] at this
  · rintro ⟨hs, hm, he⟩
    rename_i s m e ds negative places k
    cases hm with
    | whole hds hne =>
        rw [read?_of_whole (hs.takeSign_append (ne_sign_of_digits hds hne)) hds he.head_ne, if_neg hne,
          readExponent?_eq_some_iff.mpr he]
        rfl
    | point hds hps hne =>
        rename_i ds ps
        have hsign : ∀ b ∈ (ds ++ 0x2e :: (ps ++ e)).head?, b ≠ 0x2b ∧ b ≠ 0x2d := by
          rcases eq_or_ne ds [] with rfl | hds'
          · rintro b ⟨⟩
            decide
          · exact ne_sign_of_digits hds hds'
        rw [List.append_assoc, List.cons_append, read?_of_point (hs.takeSign_append hsign) hds hps
          fun b hb => (he.head_ne b hb).1, if_neg hne, readExponent?_eq_some_iff.mpr he]
        rfl

example : read? (utf8 "-1.5e3") = some ⟨true, ⟨15, 2⟩⟩ := by decide

end Numeral

end LessonLang
