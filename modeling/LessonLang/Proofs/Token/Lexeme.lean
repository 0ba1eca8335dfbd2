import LessonLang.Proofs.Text.Utf8
import LessonLang.Token.Scan

/-!
Lexemes.

* `Lexeme` states the rules by which the lexeme at the front of a text is chosen: the longest
  keyword phrase, else an operator of two bytes, else one of one byte, else a string up to its
  closing quotation mark, else a run of digits or an identifier that cannot be made longer.
* `Enclosed` is what can stand between the quotation marks of a string, and
  `closingQuote_eq_some_iff` shows that the closing one is found behind it.
* `exists_lexeme`, `Lexeme.lexeme_eq`: scanning finds a lexeme exactly if the rules have one, and
  then that one.
-/

namespace LessonLang

/-! ### The rules -/

/-- The bytes between the quotation marks of a string. A backslash shields the byte behind it. -/
inductive Enclosed : Text → Prop where
  | nil : Enclosed []
  | plain {b : UInt8} {rest : Text} (hquote : b ≠ 0x22) (hback : b ≠ 0x5c) (h : Enclosed rest) :
      Enclosed (b :: rest)
  | shielded (b : UInt8) {rest : Text} (h : Enclosed rest) : Enclosed (0x5c :: b :: rest)

/-- A run of bytes of one class at the front of a text, which the next byte does not continue. -/
structure IsRun (p : UInt8 → Bool) (input run : Text) : Prop where
  starts : run <+: input
  all : ∀ b ∈ run, p b = true
  maximal : ∀ b, run ++ [b] <+: input → p b = false

/-- A keyword phrase begins here. -/
def StartsKeyword (input : Text) : Prop := ∃ entry ∈ keywords, utf8 entry.1 <+: input

/-- An operator of two bytes begins here. -/
def StartsLongOperator (input : Text) : Prop := ∃ entry ∈ longOperators, entry.1 <+: input

/-- An operator of one byte begins here. -/
def StartsShortOperator (input : Text) : Prop := ∃ entry ∈ shortOperators, [entry.1] <+: input

/-- **The rules for lexemes**: the kind and the bytes of the lexeme at the front of a text. -/
inductive Lexeme (input : Text) : Kind → Text → Prop where
  | keyword {phrase : String} {kind : Kind} (hmem : (phrase, kind) ∈ keywords)
      (hstart : utf8 phrase <+: input)
      (hlongest : ∀ entry ∈ keywords, utf8 entry.1 <+: input →
        (utf8 entry.1).length ≤ (utf8 phrase).length) : Lexeme input kind (utf8 phrase)
  | longOperator {text : Text} {kind : Kind} (hkeyword : ¬StartsKeyword input)
      (hmem : (text, kind) ∈ longOperators) (hstart : text <+: input) : Lexeme input kind text
  | shortOperator {b : UInt8} {kind : Kind} (hkeyword : ¬StartsKeyword input)
      (hlong : ¬StartsLongOperator input) (hmem : (b, kind) ∈ shortOperators)
      (hstart : [b] <+: input) : Lexeme input kind [b]
  | string {body : Text} (hkeyword : ¬StartsKeyword input) (hlong : ¬StartsLongOperator input)
      (hshort : ¬StartsShortOperator input) (hbody : Enclosed body)
      (hstart : 0x22 :: (body ++ [0x22]) <+: input) :
      Lexeme input .string (0x22 :: (body ++ [0x22]))
  | number {digits : Text} (hkeyword : ¬StartsKeyword input) (hlong : ¬StartsLongOperator input)
      (hshort : ¬StartsShortOperator input) (hne : digits ≠ [])
      (hrun : IsRun isDigit input digits) : Lexeme input .number digits
  | identifier {b : UInt8} {more : Text} (hkeyword : ¬StartsKeyword input)
      (hlong : ¬StartsLongOperator input) (hshort : ¬StartsShortOperator input)
      (hb : isNameStart b = true) (hrun : IsRun isNamePart input (b :: more)) :
      Lexeme input .identifier (b :: more)

/-! ### Keyword phrases and operators -/

/-- Longer phrases stand first. -/
lemma keywords_sorted :
    keywords.Pairwise fun e e' => (utf8 e'.1).length ≤ (utf8 e.1).length := by decide +kernel

lemma keywords_nonempty : ∀ e ∈ keywords, 0 < (utf8 e.1).length := by decide +kernel

lemma keywords_injective : ∀ e ∈ keywords, ∀ e' ∈ keywords, utf8 e.1 = utf8 e'.1 → e = e' := by
  decide +kernel

/-- A text starts with its prefixes. -/
lemma startsWith_iff {t p : Text} : t.startsWith p = true ↔ p <+: t := by
  rw [Text.startsWith, List.isPrefixOf_iff_prefix]

/-- No phrase is found where none starts. -/
lemma keywordAt_eq_none_iff {t : Text} : keywordAt t = none ↔ ¬StartsKeyword t := by
  rw [keywordAt, Option.map_eq_none_iff, List.find?_eq_none, StartsKeyword]
  simp only [startsWith_iff, not_exists, not_and]

/-- **The first phrase that is tried with success is the longest one.** -/
lemma keywordAt_eq_some_iff {t : Text} {kind : Kind} {n : Nat} :
    keywordAt t = some (kind, n) ↔ ∃ phrase, (phrase, kind) ∈ keywords ∧ utf8 phrase <+: t
      ∧ (∀ e ∈ keywords, utf8 e.1 <+: t → (utf8 e.1).length ≤ (utf8 phrase).length)
      ∧ n = (utf8 phrase).length := by
  have hfirst : ∀ e, keywords.find? (fun entry => t.startsWith (utf8 entry.1)) = some e →
      e ∈ keywords ∧ utf8 e.1 <+: t
        ∧ ∀ e' ∈ keywords, utf8 e'.1 <+: t → (utf8 e'.1).length ≤ (utf8 e.1).length := by
    intro e he
    obtain ⟨hstart, before, behind, heq, hbefore⟩ := List.find?_eq_some_iff_append.mp he
    refine ⟨by simp [heq], startsWith_iff.mp hstart, ?_⟩
    intro e' hmem hstart'
    have hsorted := keywords_sorted
    rw [heq] at hmem hsorted
    obtain hmem | hmem := List.mem_append.mp hmem
    · exact absurd (startsWith_iff.mpr hstart') (by simpa using hbefore e' hmem)
    · obtain rfl | hmem := List.mem_cons.mp hmem
      · exact le_rfl
      · exact List.rel_of_pairwise_cons (List.pairwise_append.mp hsorted).2.1 hmem
  constructor
  · intro h
    obtain ⟨e, he, heq⟩ := Option.map_eq_some_iff.mp h
    obtain ⟨rfl, rfl⟩ := Prod.mk.inj heq
    obtain ⟨hmem, hstart, hlongest⟩ := hfirst e he
    exact ⟨e.1, hmem, hstart, hlongest, rfl⟩
  · rintro ⟨phrase, hmem, hstart, hlongest, rfl⟩
    cases he : keywords.find? (fun entry => t.startsWith (utf8 entry.1)) with
    | none =>
        have hnone := List.find?_eq_none.mp he _ hmem
        exact absurd (startsWith_iff.mpr hstart) (by simpa using hnone)
    | some e =>
        obtain ⟨hmem', hstart', hlongest'⟩ := hfirst e he
        have hlen : (utf8 e.1).length = (utf8 phrase).length :=
          le_antisymm (hlongest e hmem' hstart') (hlongest' _ hmem hstart)
        have heq : utf8 e.1 = utf8 phrase :=
          (List.prefix_of_prefix_length_le hstart' hstart hlen.le).eq_of_length hlen
        obtain rfl := keywords_injective e hmem' _ hmem heq
        rw [keywordAt, he]
        rfl

lemma longOperators_spec : ∀ e ∈ longOperators,
    e.1.length = 2 ∧ longOperators.lookup e.1 = some e.2 := by decide

lemma shortOperators_spec : ∀ e ∈ shortOperators, shortOperators.lookup e.1 = some e.2 := by decide

/-- A long operator is found if the text starts with one. -/
lemma longOperators_lookup {t : Text} {kind : Kind} :
    longOperators.lookup (t.take 2) = some kind ↔ ∃ text, (text, kind) ∈ longOperators
      ∧ text <+: t := by
  constructor
  · intro h
    obtain ⟨before, behind, heq, -⟩ := List.lookup_eq_some_iff.mp h
    exact ⟨_, by simp [heq], List.take_prefix 2 t⟩
  · rintro ⟨text, hmem, hstart⟩
    obtain ⟨hlen, hlookup⟩ := longOperators_spec _ hmem
    rwa [← hlen, ← List.prefix_iff_eq_take.mp hstart]

/-- A short operator is found if the byte is one. -/
lemma shortOperators_lookup {b : UInt8} {kind : Kind} :
    shortOperators.lookup b = some kind ↔ (b, kind) ∈ shortOperators := by
  constructor
  · intro h
    obtain ⟨before, behind, heq, -⟩ := List.lookup_eq_some_iff.mp h
    simp [heq]
  · exact fun hmem => shortOperators_spec _ hmem

/-- No long operator is found where none starts. -/
lemma longOperators_lookup_eq_none {t : Text} :
    longOperators.lookup (t.take 2) = none ↔ ¬StartsLongOperator t := by
  rw [← not_iff_not, not_not, ← ne_eq, Option.ne_none_iff_exists', StartsLongOperator]
  simp only [longOperators_lookup, Prod.exists]
  exact exists_comm

/-- No short operator is found where none starts. -/
lemma shortOperators_lookup_eq_none {b : UInt8} {rest : Text} :
    shortOperators.lookup b = none ↔ ¬StartsShortOperator (b :: rest) := by
  rw [← not_iff_not, not_not, ← ne_eq, Option.ne_none_iff_exists', StartsShortOperator]
  simp only [shortOperators_lookup, Prod.exists, List.cons_prefix_cons, List.nil_prefix, and_true]
  constructor
  · rintro ⟨kind, hmem⟩
    exact ⟨b, kind, hmem, rfl⟩
  · rintro ⟨_, kind, hmem, rfl⟩
    exact ⟨kind, hmem⟩

/-- The kinds of keyword phrases and operators. -/
def fixedKinds : List Kind :=
  keywords.map Prod.snd ++ (longOperators.map Prod.snd ++ shortOperators.map Prod.snd)

lemma fixedKinds_spec : ∀ kind ∈ fixedKinds, kind ≠ .eof ∧ kind ≠ .string := by decide

/-! ### Strings -/

/-- Shielded bytes are passed over. -/
lemma closingQuote_skip (n : Nat) (t : Text) (hn : n ≤ t.length) :
    closingQuote n t = (closingQuote 0 (t.drop n)).map (· + n) := by
  induction n generalizing t with
  | zero => simp
  | succ n ih =>
      cases t with
      | nil => exact absurd hn (by simp)
      | cons b rest =>
          rw [closingQuote, ih rest (by simpa using hn), List.drop_succ_cons, Option.map_map]
          rfl

/-- A byte that is neither a quotation mark nor a backslash is passed over. -/
lemma closingQuote_plain {b : UInt8} {rest : Text} (hquote : b ≠ 0x22) (hback : b ≠ 0x5c) :
    closingQuote 0 (b :: rest) = (closingQuote 0 rest).map (· + 1) := by
  rw [closingQuote.eq_def]
  dsimp only
  rw [if_neg (by simpa using hquote), if_neg (by simpa using hback)]

/-- The whole character behind a backslash is passed over. -/
lemma closingQuote_shielded (c : UInt8) (more : Text) :
    ∃ tails after, more = tails ++ after ∧ (∀ x ∈ tails, Text.isTail x = true)
      ∧ closingQuote 0 (0x5c :: c :: more)
        = (closingQuote 0 after).map (· + (tails.length + 2)) := by
  obtain ⟨tails, after, rfl, hlen, htails⟩ := (Text.reads_first c more).tails
  refine ⟨tails, after, rfl, htails, ?_⟩
  rw [closingQuote, if_neg (by decide), if_pos (by decide)]
  dsimp only
  rw [hlen, closingQuote_skip _ _ (by simp), List.drop_succ_cons, List.drop_left, Option.map_map]
  rfl

/-- The inner bytes of a character are neither quotation marks nor backslashes. -/
lemma isTail_plain {b : UInt8} (h : Text.isTail b = true) : b ≠ 0x22 ∧ b ≠ 0x5c := by
  rw [Text.isTail_iff] at h
  constructor <;> rintro rfl <;> exact absurd h.1 (by decide)

/-- Continuation bytes can be put in front of what a string encloses, and taken away. -/
lemma enclosed_tails_append_iff {tails body : Text} (h : ∀ x ∈ tails, Text.isTail x = true) :
    Enclosed (tails ++ body) ↔ Enclosed body := by
  induction tails with
  | nil => rfl
  | cons x tails ih =>
      obtain ⟨hquote, hback⟩ := isTail_plain (h x (by simp))
      rw [← ih fun y hy => h y (by simp [hy])]
      constructor
      · intro he
        rw [List.cons_append] at he
        generalize tails ++ body = rest at he ⊢
        cases he with
        | plain _ _ he => exact he
        | shielded => exact absurd rfl hback
      · exact .plain hquote hback

/-- What stands before the closing quotation mark is enclosed. -/
lemma exists_enclosed {t : Text} {n : Nat} (h : closingQuote 0 t = some n) :
    ∃ body after, t = body ++ 0x22 :: after ∧ Enclosed body ∧ body.length = n := by
  cases t with
  | nil => exact absurd h (by simp [closingQuote])
  | cons b rest =>
      by_cases hquote : b = 0x22
      · subst hquote
        obtain rfl : 0 = n := Option.some.inj h
        exact ⟨[], rest, rfl, .nil, rfl⟩
      by_cases hback : b = 0x5c
      · subst hback
        cases rest with
        | nil => exact absurd h (by simp [closingQuote])
        | cons c more =>
            obtain ⟨tails, behind, rfl, htails, hclose⟩ := closingQuote_shielded c more
            obtain ⟨k, hk, rfl⟩ := Option.map_eq_some_iff.mp (hclose.symm.trans h)
            obtain ⟨body, after, rfl, hbody, rfl⟩ := exists_enclosed hk
            refine ⟨0x5c :: c :: (tails ++ body), after, by simp, .shielded c ?_, by simp; omega⟩
            exact (enclosed_tails_append_iff htails).mpr hbody
      · rw [closingQuote_plain hquote hback] at h
        obtain ⟨k, hk, rfl⟩ := Option.map_eq_some_iff.mp h
        obtain ⟨body, after, rfl, hbody, rfl⟩ := exists_enclosed hk
        exact ⟨b :: body, after, rfl, .plain hquote hback hbody, rfl⟩
termination_by t.length
decreasing_by all_goals simp_all; try omega

/-- The first quotation mark behind something enclosed closes it. -/
lemma Enclosed.closingQuote_eq {body : Text} (h : Enclosed body) (after : Text) :
    closingQuote 0 (body ++ 0x22 :: after) = some body.length := by
  induction hn : body.length using Nat.strong_induction_on generalizing body with
  | _ n ih =>
    subst hn
    cases h with
    | nil => rfl
    | @plain b rest hquote hback h =>
        rw [List.cons_append, closingQuote_plain hquote hback,
          ih rest.length (Nat.lt_succ_self _) h rfl]
        rfl
    | @shielded b rest h =>
        obtain ⟨tails, behind, heq, htails, hclose⟩ :=
          closingQuote_shielded b (rest ++ 0x22 :: after)
        -- no quotation mark is a continuation byte, so these lie in front of the closing one
        obtain ⟨inner, rfl, rfl⟩ :
            ∃ inner, rest = tails ++ inner ∧ behind = inner ++ 0x22 :: after := by
          obtain ⟨inner, hrest, hbehind⟩ | ⟨inner, hmore, hbehind⟩ :=
            List.append_eq_append_iff.mp heq
          · cases inner with
            | nil => exact ⟨[], by simpa using hrest.symm, by simpa using hbehind.symm⟩
            | cons x inner =>
                obtain rfl := (List.cons.inj hbehind).1
                exact absurd (htails 0x22 (by simp [hrest])) (by decide)
          · exact ⟨inner, hmore, hbehind⟩
        have hinner : Enclosed inner := (enclosed_tails_append_iff htails).mp h
        have hlt : inner.length < (0x5c :: b :: (tails ++ inner)).length := by
          simp only [List.length_cons, List.length_append]
          omega
        rw [List.cons_append, List.cons_append, hclose, ih inner.length hlt hinner rfl,
          Option.map_some, List.length_cons, List.length_cons, List.length_append]
        congr 1
        omega

/-- **The closing quotation mark** is the one behind what a string can enclose. -/
lemma closingQuote_eq_some_iff {t : Text} {n : Nat} :
    closingQuote 0 t = some n ↔ ∃ body after, t = body ++ 0x22 :: after ∧ Enclosed body
      ∧ body.length = n := by
  constructor
  · intro h
    exact exists_enclosed h
  · rintro ⟨body, after, rfl, hbody, rfl⟩
    exact hbody.closingQuote_eq after

/-! ### Runs -/

/-- The bytes of a class at the front of a text are the one run of that class. -/
lemma isRun_iff {p : UInt8 → Bool} {input run : Text} :
    IsRun p input run ↔ run = input.takeWhile p := by
  constructor
  · rintro ⟨⟨after, rfl⟩, hall, hmax⟩
    rw [List.takeWhile_append_of_pos hall]
    cases after with
    | nil => simp
    | cons b after =>
        have hb : p b = false := hmax b ⟨after, by simp⟩
        simp [hb]
  · rintro rfl
    refine ⟨List.takeWhile_prefix p, List.all_eq_true.mp List.all_takeWhile, ?_⟩
    rintro b ⟨after, heq⟩
    have hdrop : input.dropWhile p = b :: after := by
      rw [← List.append_right_inj (input.takeWhile p), List.takeWhile_append_dropWhile,
        ← List.singleton_append, ← List.append_assoc, heq]
    have hhead := List.head?_dropWhile_not p input
    rwa [hdrop, List.head?_cons] at hhead

lemma ne_quote_of_isDigit {b : UInt8} (h : isDigit b = true) : b ≠ 0x22 := by
  rintro rfl
  exact absurd h (by decide)

/-- What starts an identifier is neither a quotation mark nor a digit. -/
lemma isNameStart_plain {b : UInt8} (h : isNameStart b = true) : b ≠ 0x22 ∧ isDigit b = false := by
  constructor
  · rintro rfl
    exact absurd h (by decide)
  · simp only [isNameStart, isLetter, isDigit, Bool.or_eq_true, Bool.and_eq_true, decide_eq_true_eq,
      beq_iff_eq, UInt8.le_iff_toNat_le, ← UInt8.toNat_inj, Bool.and_eq_false_iff,
      decide_eq_false_iff_not, UInt8.reduceToNat] at h ⊢
    omega

/-! ### Lexemes -/

namespace Lexeme

variable {input raw : Text} {kind : Kind}

/-- A lexeme stands at the start of the input. -/
lemma starts (h : Lexeme input kind raw) : raw <+: input := by
  cases h with
  | keyword _ hstart _ => exact hstart
  | longOperator _ _ hstart => exact hstart
  | shortOperator _ _ _ hstart => exact hstart
  | string _ _ _ _ hstart => exact hstart
  | number _ _ _ _ hrun => exact hrun.starts
  | identifier _ _ _ _ hrun => exact hrun.starts

/-- No lexeme is empty. -/
lemma ne_nil (h : Lexeme input kind raw) : raw ≠ [] := by
  cases h with
  | keyword hmem _ _ => exact List.length_pos_iff.mp (keywords_nonempty _ hmem)
  | longOperator _ hmem _ =>
      rintro rfl
      exact absurd (longOperators_spec _ hmem).1 (by simp)
  | number _ _ _ hne _ => exact hne
  | shortOperator => simp
  | string => simp
  | identifier => simp

/-- No lexeme is the end of input, and only strings have the kind of a string. -/
lemma kind_cases (h : Lexeme input kind raw) :
    kind ≠ .eof ∧ (kind = .string → ∃ body, raw = 0x22 :: (body ++ [0x22])) := by
  have hfixed : kind ∈ fixedKinds →
      kind ≠ .eof ∧ (kind = .string → ∃ body, raw = 0x22 :: (body ++ [0x22])) := by
    intro hmem
    obtain ⟨heof, hstring⟩ := fixedKinds_spec kind hmem
    exact ⟨heof, fun hkind => absurd hkind hstring⟩
  cases h with
  | keyword hmem _ _ => exact hfixed (by simpa [fixedKinds] using Or.inl ⟨_, hmem⟩)
  | longOperator _ hmem _ => exact hfixed (by simpa [fixedKinds] using Or.inr (Or.inl ⟨_, hmem⟩))
  | shortOperator _ _ hmem _ =>
      exact hfixed (by simpa [fixedKinds] using Or.inr (Or.inr ⟨_, hmem⟩))
  | @string body => exact ⟨by simp, fun _ => ⟨body, rfl⟩⟩
  | number => simp
  | identifier => simp

end Lexeme

/-- **What scanning finds is a lexeme** by the rules. -/
lemma exists_lexeme {b : UInt8} {rest : Text} {kind : Kind} {n : Nat}
    (h : lexeme b rest = .ok (kind, n)) :
    ∃ raw, Lexeme (b :: rest) kind raw ∧ raw.length = n + 1 := by
  rw [lexeme] at h
  split at h
  next k length hkey =>
    obtain ⟨phrase, hmem, hstart, hlongest, rfl⟩ := keywordAt_eq_some_iff.mp hkey
    obtain ⟨rfl, rfl⟩ := Prod.mk.inj (Except.ok.inj h)
    have hpos := keywords_nonempty _ hmem
    exact ⟨utf8 phrase, .keyword hmem hstart hlongest, by dsimp only at hpos; omega⟩
  next hkey =>
  have hkey := keywordAt_eq_none_iff.mp hkey
  split at h
  next k hlong =>
    obtain ⟨rfl, rfl⟩ := Prod.mk.inj (Except.ok.inj h)
    obtain ⟨text, hmem, hstart⟩ := longOperators_lookup.mp hlong
    exact ⟨text, .longOperator hkey hmem hstart, (longOperators_spec _ hmem).1⟩
  next hlong =>
  have hlong := longOperators_lookup_eq_none.mp hlong
  split at h
  next k hshort =>
    obtain ⟨rfl, rfl⟩ := Prod.mk.inj (Except.ok.inj h)
    exact ⟨[b], .shortOperator hkey hlong (shortOperators_lookup.mp hshort) ⟨rest, rfl⟩, rfl⟩
  next hshort =>
  have hshort : ¬StartsShortOperator (b :: rest) := shortOperators_lookup_eq_none.mp hshort
  split_ifs at h with hquote hdigit hname
  · split at h
    next m hclose =>
      obtain ⟨rfl, rfl⟩ := Prod.mk.inj (Except.ok.inj h)
      obtain ⟨body, after, rfl, hbody, rfl⟩ := closingQuote_eq_some_iff.mp hclose
      obtain rfl := beq_iff_eq.mp hquote
      exact ⟨_, .string hkey hlong hshort hbody ⟨after, by simp⟩, by simp⟩
    next => exact absurd h (by simp)
  · obtain ⟨rfl, rfl⟩ := Prod.mk.inj (Except.ok.inj h)
    refine ⟨b :: rest.takeWhile isDigit, .number hkey hlong hshort (by simp) ?_, by simp⟩
    exact isRun_iff.mpr (List.takeWhile_cons_of_pos hdigit).symm
  · obtain ⟨rfl, rfl⟩ := Prod.mk.inj (Except.ok.inj h)
    refine ⟨b :: rest.takeWhile isNamePart, .identifier hkey hlong hshort hname ?_, by simp⟩
    exact isRun_iff.mpr (List.takeWhile_cons_of_pos (by simp [isNamePart, hname])).symm
  · split at h <;> exact absurd h (by simp)

/-- **A lexeme by the rules is found.** -/
lemma Lexeme.lexeme_eq {b : UInt8} {rest raw : Text} {kind : Kind}
    (h : Lexeme (b :: rest) kind raw) : lexeme b rest = .ok (kind, raw.length - 1) := by
  rw [lexeme]
  cases h with
  | @keyword phrase kind hmem hstart hlongest =>
      rw [keywordAt_eq_some_iff.mpr ⟨phrase, hmem, hstart, hlongest, rfl⟩]
  | longOperator hkey hmem hstart =>
      simp only [keywordAt_eq_none_iff.mpr hkey]
      rw [longOperators_lookup.mpr ⟨_, hmem, hstart⟩, (longOperators_spec _ hmem).1]
  | shortOperator hkey hlong hmem hstart =>
      obtain ⟨rfl, -⟩ := List.cons_prefix_cons.mp hstart
      simp only [keywordAt_eq_none_iff.mpr hkey, longOperators_lookup_eq_none.mpr hlong]
      rw [shortOperators_lookup.mpr hmem]
      rfl
  | @string body hkey hlong hshort hbody hstart =>
      obtain ⟨rfl, after, rfl⟩ := List.cons_prefix_cons.mp hstart
      simp only [keywordAt_eq_none_iff.mpr hkey, longOperators_lookup_eq_none.mpr hlong,
        shortOperators_lookup_eq_none.mpr hshort]
      rw [if_pos (by decide), List.append_assoc, List.singleton_append, hbody.closingQuote_eq after]
      simp
  | number hkey hlong hshort hne hrun =>
      rw [isRun_iff] at hrun
      have hdigit : isDigit b = true := by
        by_contra hb
        exact hne (hrun.trans (List.takeWhile_cons_of_neg hb))
      simp only [keywordAt_eq_none_iff.mpr hkey, longOperators_lookup_eq_none.mpr hlong,
        shortOperators_lookup_eq_none.mpr hshort]
      rw [if_neg (by simpa using ne_quote_of_isDigit hdigit), if_pos hdigit, hrun,
        List.takeWhile_cons_of_pos hdigit]
      rfl
  | identifier hkey hlong hshort hb hrun =>
      obtain ⟨rfl, -⟩ := List.cons_prefix_cons.mp hrun.starts
      obtain ⟨hquote, hdigit⟩ := isNameStart_plain hb
      have hmore := isRun_iff.mp hrun
      rw [List.takeWhile_cons_of_pos (by simp [isNamePart, hb])] at hmore
      simp only [keywordAt_eq_none_iff.mpr hkey, longOperators_lookup_eq_none.mpr hlong,
        shortOperators_lookup_eq_none.mpr hshort]
      rw [if_neg (by simpa using hquote), if_neg (by simp [hdigit]), if_pos hb, hmore]
      rfl

/-- **The rules prescribe one lexeme** at most. -/
lemma Lexeme.unique {input raw raw' : Text} {kind kind' : Kind} (h : Lexeme input kind raw)
    (h' : Lexeme input kind' raw') : kind = kind' ∧ raw = raw' := by
  cases input with
  | nil => exact absurd (List.prefix_nil.mp h.starts) h.ne_nil
  | cons b rest =>
      obtain ⟨hkind, hlen⟩ := Prod.mk.inj (Except.ok.inj (h.lexeme_eq.symm.trans h'.lexeme_eq))
      have hpos := List.length_pos_iff.mpr h.ne_nil
      have hpos' := List.length_pos_iff.mpr h'.ne_nil
      have hlen : raw.length = raw'.length := by omega
      exact ⟨hkind,
        (List.prefix_of_prefix_length_le h.starts h'.starts hlen.le).eq_of_length hlen⟩

end LessonLang
