import Mathlib.Data.List.DropRight
import Mathlib.Tactic
import LessonLang.Proofs.Token.Tiling

/-!
Where strings end.

* `backslashes` counts the backslashes at the end of a text. Whether their number is odd is found by
  reading along the text (`odd_backslashes_iff`), so that the bytes between quotation marks are those
  in front of the first mark with an even number of backslashes before it (`enclosed_iff`).
* `closingQuote_eq_some_iff_first`: that mark is the one that scanning finds, and it makes no
  difference that a backslash shields a whole character and not one byte
  (`closingQuote_eq_bytewiseQuote`).
* `string_closed`: a string reaches to the first quotation mark that no backslash shields, and scanning
  goes on behind it. Without such a mark there is no string.
-/

namespace LessonLang

/-! ### Backslashes at the end -/

/-- The number of backslashes at the end of a text. -/
def backslashes (t : Text) : Nat := (t.rtakeWhile (· == 0x5c)).length

/-- Whether the byte behind a text is shielded, where `shielded` says so of the first byte of the
text. A backslash that is shielded itself shields nothing. -/
def shieldsNext (shielded : Bool) (t : Text) : Bool :=
  t.foldl (fun shielded b => b == 0x5c && !shielded) shielded

lemma backslashes_concat (t : Text) (b : UInt8) :
    backslashes (t ++ [b]) = if b == 0x5c then backslashes t + 1 else 0 := by
  rw [backslashes, List.rtakeWhile_concat]
  split_ifs
  · rw [List.length_append, List.length_singleton, backslashes]
  · rfl

/-- **An odd number of backslashes** shields the byte behind them. -/
lemma odd_backslashes_iff (t : Text) : Odd (backslashes t) ↔ shieldsNext false t = true := by
  induction t using List.reverseRecOn with
  | nil => simp [backslashes, shieldsNext]
  | append_singleton t b ih =>
      have hconcat : shieldsNext false (t ++ [b]) = (b == 0x5c && !shieldsNext false t) :=
        List.foldl_append ..
      rw [backslashes_concat, hconcat]
      by_cases hb : (b == 0x5c) = true
      · rw [if_pos hb, Nat.odd_add_one, ih, hb]
        simp
      · simp [hb]

lemma shieldsNext_plain {b : UInt8} (hb : b ≠ 0x5c) (t : Text) :
    shieldsNext false (b :: t) = shieldsNext false t := by
  rw [shieldsNext, List.foldl_cons, beq_false_of_ne hb, Bool.false_and, ← shieldsNext]

lemma shieldsNext_shielded (b : UInt8) (t : Text) :
    shieldsNext false (0x5c :: b :: t) = shieldsNext false t := by
  have hpair : (b == 0x5c && !((0x5c : UInt8) == 0x5c && !false)) = false := by simp
  rw [shieldsNext, List.foldl_cons, List.foldl_cons, hpair, ← shieldsNext]

/-! ### The closing quotation mark -/

/-- What a string encloses, read from its front. -/
lemma enclosed_iff_shieldsNext {body : Text} : Enclosed body ↔ shieldsNext false body = false
    ∧ ∀ i, body[i]? = some 0x22 → shieldsNext false (body.take i) = true := by
  constructor
  · intro h
    induction h with
    | nil => exact ⟨rfl, by simp⟩
    | @plain b rest hquote hback _ ih =>
        refine ⟨(shieldsNext_plain hback rest).trans ih.1, fun i hi => ?_⟩
        cases i with
        | zero => exact absurd (Option.some.inj hi) hquote
        | succ i => exact (shieldsNext_plain hback _).trans (ih.2 i hi)
    | @shielded b rest _ ih =>
        refine ⟨(shieldsNext_shielded b rest).trans ih.1, fun i hi => ?_⟩
        match i with
        | 0 => exact absurd (Option.some.inj hi) (by decide)
        | 1 => rfl
        | i + 2 => exact (shieldsNext_shielded b _).trans (ih.2 i hi)
  · rintro ⟨hend, hquotes⟩
    match body with
    | [] => exact .nil
    | b :: rest =>
        have hquote : b ≠ 0x22 := by
          rintro rfl
          exact absurd (hquotes 0 rfl) Bool.false_ne_true
        by_cases hback : b = 0x5c
        · subst hback
          cases rest with
          | nil => exact absurd hend (by decide)
          | cons c more =>
              refine .shielded c (enclosed_iff_shieldsNext.mpr ⟨?_, fun i hi => ?_⟩)
              · exact (shieldsNext_shielded c more).symm.trans hend
              · exact (shieldsNext_shielded c _).symm.trans (hquotes (i + 2) hi)
        · refine .plain hquote hback (enclosed_iff_shieldsNext.mpr ⟨?_, fun i hi => ?_⟩)
          · exact (shieldsNext_plain hback rest).symm.trans hend
          · exact (shieldsNext_plain hback _).symm.trans (hquotes (i + 1) hi)
termination_by body.length

/-- A quotation mark that no backslash shields. -/
def Bare (t : Text) (n : Nat) : Prop := t[n]? = some 0x22 ∧ Even (backslashes (t.take n))

/-- **What a string encloses** is a text in which every quotation mark is shielded, and behind which
one is not. -/
lemma enclosed_iff {body : Text} : Enclosed body ↔ Even (backslashes body) ∧ ∀ i, ¬Bare body i := by
  rw [enclosed_iff_shieldsNext]
  simp only [Bare, not_and, ← Nat.not_odd_iff_even, odd_backslashes_iff, Bool.not_eq_true,
    Bool.not_eq_false]

/-- **Scanning finds the first bare quotation mark.** -/
lemma closingQuote_eq_some_iff_first {t : Text} {n : Nat} :
    closingQuote 0 t = some n ↔ Bare t n ∧ ∀ i < n, ¬Bare t i := by
  have hfront : ∀ i < n, Bare (t.take n) i ↔ Bare t i := by
    intro i hi
    rw [Bare, Bare, List.getElem?_take_of_lt hi, List.take_take, min_eq_left hi.le]
  rw [closingQuote_eq_some_iff]
  constructor
  · rintro ⟨body, after, rfl, hbody, rfl⟩
    obtain ⟨heven, hbare⟩ := enclosed_iff.mp hbody
    rw [List.take_left] at hfront
    refine ⟨⟨by simp, by rwa [List.take_left]⟩, fun i hi => ?_⟩
    exact fun h => hbare i ((hfront i hi).mpr h)
  · rintro ⟨⟨hquote, heven⟩, hfirst⟩
    obtain ⟨hn, hget⟩ := List.getElem?_eq_some_iff.mp hquote
    refine ⟨t.take n, t.drop (n + 1), ?_, enclosed_iff.mpr ⟨heven, fun i hi => ?_⟩, ?_⟩
    · rw [← hget, ← List.drop_eq_getElem_cons hn, List.take_append_drop]
    · have hlt : i < n := by
        have := (List.getElem?_eq_some_iff.mp hi.1).1
        rw [List.length_take] at this
        omega
      exact hfirst i hlt ((hfront i hlt).mp hi)
    · rw [List.length_take, min_eq_left hn.le]

lemma exists_closingQuote_iff {t : Text} : (∃ n, closingQuote 0 t = some n) ↔ ∃ n, Bare t n := by
  classical
  constructor
  · rintro ⟨n, hn⟩
    exact ⟨n, (closingQuote_eq_some_iff_first.mp hn).1⟩
  · intro h
    exact ⟨Nat.find h, closingQuote_eq_some_iff_first.mpr
      ⟨Nat.find_spec h, fun i hi => Nat.find_min h hi⟩⟩

/-! ### Shielding one byte -/

/-- The distance to the closing quotation mark when a backslash shields nothing but the byte behind
it. `shielded` says whether the first byte is. -/
def bytewiseQuote (shielded : Bool) : Text → Option Nat
  | [] => none
  | b :: rest =>
    if b == 0x22 && !shielded then some 0
    else (bytewiseQuote (b == 0x5c && !shielded) rest).map (· + 1)

lemma bytewiseQuote_eq_some_iff {shielded : Bool} {t : Text} {n : Nat} :
    bytewiseQuote shielded t = some n
      ↔ (t[n]? = some 0x22 ∧ shieldsNext shielded (t.take n) = false)
        ∧ ∀ i < n, t[i]? = some 0x22 → shieldsNext shielded (t.take i) = true := by
  induction t generalizing shielded n with
  | nil => simp [bytewiseQuote]
  | cons b rest ih =>
      have hstep : ∀ i, shieldsNext shielded ((b :: rest).take (i + 1))
          = shieldsNext (b == 0x5c && !shielded) (rest.take i) := fun _ => rfl
      rw [bytewiseQuote]
      split_ifs with hb
      · obtain ⟨hquote, hopen⟩ : b = 0x22 ∧ shielded = false := by simpa using hb
        subst hquote hopen
        constructor
        · intro h
          obtain rfl := Option.some.inj h
          exact ⟨⟨rfl, rfl⟩, by simp⟩
        · rintro ⟨-, hfirst⟩
          cases n with
          | zero => rfl
          | succ n => exact absurd (hfirst 0 n.succ_pos rfl) Bool.false_ne_true
      · have hshield : b = 0x22 → shielded = true := by simpa using hb
        cases n with
        | zero =>
            refine ⟨fun h => ?_, ?_⟩
            · obtain ⟨m, -, hm⟩ := Option.map_eq_some_iff.mp h
              exact absurd hm m.succ_ne_zero
            · rintro ⟨⟨hquote, hopen⟩, -⟩
              exact absurd ((hshield (Option.some.inj hquote)).symm.trans hopen) (by simp)
        | succ n =>
            have hmap : (bytewiseQuote (b == 0x5c && !shielded) rest).map (· + 1) = some (n + 1)
                ↔ bytewiseQuote (b == 0x5c && !shielded) rest = some n := by
              simp
            rw [hmap, ih, hstep]
            constructor
            · rintro ⟨hn, hfirst⟩
              refine ⟨hn, fun i hi hquote => ?_⟩
              cases i with
              | zero => exact hshield (Option.some.inj hquote)
              | succ i => exact (hstep i).trans (hfirst i (Nat.lt_of_succ_lt_succ hi) hquote)
            · rintro ⟨hn, hfirst⟩
              exact ⟨hn, fun i hi => hfirst (i + 1) (Nat.succ_lt_succ hi)⟩

/-- **A backslash may as well shield one byte.** -/
lemma closingQuote_eq_bytewiseQuote (t : Text) : closingQuote 0 t = bytewiseQuote false t := by
  ext n
  rw [closingQuote_eq_some_iff_first, bytewiseQuote_eq_some_iff]
  simp only [Bare, not_and, ← Nat.not_odd_iff_even, odd_backslashes_iff, Bool.not_eq_true,
    Bool.not_eq_false]

/-! ### Strings in a text -/

/-- **A closing quotation mark** at `q` of a string that opens at `p`: the string's own backslashes in
front of it are even in number. -/
structure ClosesAt (src : Text) (p q : Nat) : Prop where
  behind : p < q
  quote : src[q]? = some 0x22
  even : Even (backslashes (src.extract (p + 1) q))

instance (src : Text) (p q : Nat) : Decidable (ClosesAt src p q) :=
  decidable_of_iff (p < q ∧ src[q]? = some 0x22 ∧ Even (backslashes (src.extract (p + 1) q)))
    ⟨fun h => ⟨h.1, h.2.1, h.2.2⟩, fun h => ⟨h.behind, h.quote, h.even⟩⟩

lemma closesAt_iff {src : Text} {p n : Nat} :
    ClosesAt src p (p + 1 + n) ↔ Bare (src.drop (p + 1)) n := by
  rw [Bare, List.getElem?_drop]
  constructor
  · rintro ⟨-, hquote, heven⟩
    exact ⟨hquote, by simpa using heven⟩
  · rintro ⟨hquote, heven⟩
    exact ⟨by omega, hquote, by simpa using heven⟩

lemma keywords_unquoted : ∀ e ∈ keywords, (utf8 e.1).head? ≠ some 0x22 := by decide +kernel

/-- Nothing but a string begins with a quotation mark. -/
lemma lexeme_quote (rest : Text) :
    lexeme 0x22 rest = match closingQuote 0 rest with
      | some n => .ok (.string, n + 1)
      | none => .error .unterminated := by
  have hkeyword : ¬StartsKeyword (0x22 :: rest) := by
    rintro ⟨e, hmem, more, heq⟩
    have hhead := keywords_unquoted e hmem
    cases hphrase : utf8 e.1 with
    | nil => exact absurd (keywords_nonempty e hmem) (by rw [hphrase]; simp)
    | cons b phrase =>
        rw [hphrase] at heq hhead
        exact hhead (congrArg some (List.cons.inj heq).1)
  have hlong : ¬StartsLongOperator (0x22 :: rest) := by
    rintro ⟨e, hmem, hstart⟩
    fin_cases hmem <;> exact absurd (List.cons_prefix_cons.mp hstart).1 (by decide)
  rw [lexeme, keywordAt_eq_none_iff.mpr hkeyword, longOperators_lookup_eq_none.mpr hlong]
  rfl

lemma not_startsGap_quote (rest : Text) : ¬StartsGap (0x22 :: rest) := by
  rintro (⟨c, hc, after, heq⟩ | h)
  · have hlen := gapLength_char hc after
    have hquote : gapLength (.blank 0) (0x22 :: rest) = 0 := rfl
    rw [heq, hquote] at hlen
    have hpos := List.length_pos_iff.mpr (String.utf8EncodeChar_ne_nil (c := c))
    omega
  · exact absurd (List.cons_prefix_cons.mp h).1 (by decide)

/-- **One round of scanning** where a quotation mark stands. -/
lemma tokenizeFrom_quote (pos : Pos) (rest : Text) :
    tokenizeFrom pos (0x22 :: rest) = match closingQuote 0 rest with
      | some n => (tokenizeFrom (pos.advance (0x22 :: rest.take (n + 1))) (rest.drop (n + 1))).map
          (Token.ofLexeme .string (0x22 :: rest.take (n + 1)) pos :: ·)
      | none => .error ⟨.unterminated, pos⟩ := by
  have h := tokenizeFrom_append pos [] (0x22 :: rest) .nil (not_startsGap_quote rest)
  rw [List.nil_append] at h
  rw [h]
  dsimp only
  rw [lexeme_quote]
  cases closingQuote 0 rest <;> rfl

/-- **A string ends at the first quotation mark that no backslash shields.** Where a quotation mark
opens a string, the string is scanned exactly if a closing one lies behind it, with an even number of
backslashes in front of it. The token has the bytes between the first such mark and the opening one,
and scanning goes on behind it. Shielding a whole character leads to the same mark as shielding a
byte. -/
theorem string_closed {src : Text} {p : Nat} (hp : src[p]? = some 0x22) (pos : Pos) :
    ((∃ n, lexeme 0x22 (src.drop (p + 1)) = .ok (.string, n)) ↔ ∃ q, ClosesAt src p q)
      ∧ ((¬∃ q, ClosesAt src p q) → tokenizeFrom pos (src.drop p) = .error ⟨.unterminated, pos⟩)
      ∧ (∀ q, ClosesAt src p q → (∀ i < q, ¬ClosesAt src p i) →
          tokenizeFrom pos (src.drop p)
            = (tokenizeFrom (pos.advance (src.extract p (q + 1))) (src.drop (q + 1))).map
                (⟨.string, src.extract (p + 1) q, 0, pos⟩ :: ·))
      ∧ closingQuote 0 (src.drop (p + 1)) = bytewiseQuote false (src.drop (p + 1)) := by
  obtain ⟨hlt, hget⟩ := List.getElem?_eq_some_iff.mp hp
  have hopen : src.drop p = 0x22 :: src.drop (p + 1) := by
    rw [List.drop_eq_getElem_cons hlt, hget]
  have hexists : (∃ n, closingQuote 0 (src.drop (p + 1)) = some n) ↔ ∃ q, ClosesAt src p q := by
    rw [exists_closingQuote_iff]
    constructor
    · rintro ⟨n, hn⟩
      exact ⟨_, closesAt_iff.mpr hn⟩
    · rintro ⟨q, hq⟩
      obtain ⟨n, rfl⟩ := Nat.exists_eq_add_of_le (Nat.succ_le_of_lt hq.behind)
      exact ⟨n, closesAt_iff.mp hq⟩
  refine ⟨?_, fun hnone => ?_, fun q hq hfirst => ?_, closingQuote_eq_bytewiseQuote _⟩
  · rw [← hexists, lexeme_quote]
    cases closingQuote 0 (src.drop (p + 1)) <;> simp
  · rw [← hexists, ← Option.isSome_iff_exists, Option.not_isSome_iff_eq_none] at hnone
    rw [hopen, tokenizeFrom_quote, hnone]
  · obtain ⟨n, rfl⟩ := Nat.exists_eq_add_of_le (Nat.succ_le_of_lt hq.behind)
    have hclose : closingQuote 0 (src.drop (p + 1)) = some n :=
      closingQuote_eq_some_iff_first.mpr ⟨closesAt_iff.mp hq, fun i hi h =>
        hfirst (p + 1 + i) (by omega) (closesAt_iff.mpr h)⟩
    have hraw : src.extract p (p + 1 + n + 1) = 0x22 :: (src.drop (p + 1)).take (n + 1) := by
      rw [List.extract_eq_take_drop, hopen, show p + 1 + n + 1 - p = n + 1 + 1 by omega,
        List.take_succ_cons]
    have htext : Token.ofLexeme .string (0x22 :: (src.drop (p + 1)).take (n + 1)) pos
        = ⟨.string, src.extract (p + 1) (p + 1 + n), 0, pos⟩ := by
      have hn : n < (src.drop (p + 1)).length := by
        exact (List.getElem?_eq_some_iff.mp (closesAt_iff.mp hq).1).1
      rw [Token.ofLexeme, List.drop_one, List.tail_cons, List.take_succ_eq_append_getElem hn,
        List.dropLast_concat, List.extract_eq_take_drop, Nat.add_sub_cancel_left]
    rw [hopen, tokenizeFrom_quote, hclose, hraw]
    dsimp only
    rw [htext, List.drop_drop, Nat.add_assoc (p + 1)]

/-- A shielded quotation mark and a shielded backslash lie in front of the closing mark. -/
theorem string_closed_behind_shielded :
    let src : Text := [0x22, 0x61, 0x5c, 0x22, 0x5c, 0x5c, 0x22, 0x3b]
    src[0]? = some 0x22 ∧ ClosesAt src 0 6
      ∧ tokenizeFrom Pos.start src = (tokenizeFrom (Pos.start.advance (src.take 7)) [0x3b]).map
          (⟨.string, [0x61, 0x5c, 0x22, 0x5c, 0x5c], 0, Pos.start⟩ :: ·) := by
  intro src
  have hp : src[0]? = some 0x22 := rfl
  have hclose : ClosesAt src 0 6 := by decide
  obtain ⟨-, -, htokens, -⟩ := string_closed hp Pos.start
  exact ⟨hp, hclose, htokens 6 hclose (by decide)⟩

end LessonLang
