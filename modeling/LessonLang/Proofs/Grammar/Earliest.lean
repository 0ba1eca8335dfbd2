import LessonLang.Proofs.Grammar.End

/-!
Parsing gives up at the earliest token.

* `Program.Begins`: the tokens are the first ones of a list that is parsed. Tokens that can be
  completed are such (`begins_of_viable`).
* `Program.rule_error_congr`: the rule for programs gives up in front of a token whatever follows
  that token. The tokens behind which it does so can be completed (`Program.blames_of_rule`).
* `Program.parse_error_earliest`: so no list that is parsed begins with the tokens up to the one
  that an error reports, while some list begins with those in front of it, and goes on with a token
  of the kind that the error names.
-/

namespace LessonLang

open Rule

/-! ### Names of kinds -/

namespace Kind

/-- The kind that has a given name. -/
def named? (name : Text) : Option Kind :=
  (all.find? fun entry => utf8 entry.2 == name).map Prod.fst

lemma named?_of_all : ∀ entry ∈ all, named? entry.1.name = some entry.1 := by decide +kernel

/-- The name of a kind that is named by its number starts as no other name does. -/
lemma head?_of_all : ∀ entry ∈ all, (utf8 entry.2).head? ≠ (utf8 "kind(").head? := by
  decide +kernel

/-- A kind has a name of its own or is named by its number. -/
lemma mem_all_or_other (k : Kind) : (∃ entry ∈ all, entry.1 = k) ∨ ∃ n, k = other n := by
  cases k with
  | other n => exact Or.inr ⟨n, rfl⟩
  | _ => exact Or.inl (by decide)

lemma named?_name {k : Kind} (hk : k.isSpelled = true ∨ k = .eof) : named? k.name = some k := by
  obtain ⟨entry, hentry, rfl⟩ | ⟨n, rfl⟩ := k.mem_all_or_other
  · exact named?_of_all entry hentry
  · exact absurd hk (by simp [isSpelled])

lemma named?_other (n : Nat) : named? (other n).name = none := by
  rw [named?, Option.map_eq_none_iff, List.find?_eq_none]
  intro entry hentry heq
  have hhead := congrArg List.head? (beq_iff_eq.mp heq)
  exact head?_of_all entry hentry hhead

lemma eq_of_named? {k k' : Kind} (h : named? k'.name = some k) : k' = k := by
  obtain ⟨entry, hentry, rfl⟩ | ⟨n, rfl⟩ := k'.mem_all_or_other
  · exact Option.some.inj ((named?_of_all entry hentry).symm.trans h)
  · rw [named?_other] at h
    exact absurd h (by simp)

/-- A text that no kind has as its name and that does not start like the name of a number. -/
lemma name_ne {k : Kind} {t : Text}
    (ht : named? t = none ∧ t.head? ≠ (utf8 "kind(").head?) : t ≠ k.name := by
  rintro rfl
  obtain ⟨hnone, hhead⟩ := ht
  obtain ⟨entry, hentry, rfl⟩ | ⟨n, rfl⟩ := k.mem_all_or_other
  · rw [named?_of_all entry hentry] at hnone
    exact absurd hnone (by simp)
  · exact hhead rfl

end Kind

/-- An expectation of more than a token reads like the name of no kind. -/
lemma Expected.unnamed : ∀ e ∈ [Expected.statement, .expression, .assignOrCall],
    Kind.named? e.shown = none ∧ e.shown.head? ≠ (utf8 "kind(").head? := by
  decide +kernel

/-- **An expectation that reads like the name of a kind** is for that kind, unless it is for one
that is named by its number. -/
lemma Expected.eq_kind_of_shown {e : Expected} {k : Kind}
    (he : ∀ k', e = .kind k' → k'.isSpelled = true ∨ k' = .eof) (h : e.shown = k.name) :
    e = .kind k := by
  cases e with
  | kind k' =>
      have hname : Kind.named? k.name = some k' := by
        rw [← h]
        exact Kind.named?_name (he k' rfl)
      rw [Kind.eq_of_named? hname]
  | statement => exact absurd h (Kind.name_ne (unnamed _ (by simp)))
  | expression => exact absurd h (Kind.name_ne (unnamed _ (by simp)))
  | assignOrCall => exact absurd h (Kind.name_ne (unnamed _ (by simp)))

namespace Program

/-! ### Where the rule for programs gives up -/

/-- **Where the rule for programs gives up**, only the next token matters. -/
lemma rule_error_congr {n : Nat} {us r r' : List Token} {e : Expected} {d : Detail}
    (hr : sees r = sees r') (h : rule n (us ++ r) = .error ⟨e, d, r⟩) :
    rule n (us ++ r') = .error ⟨e, d, r'⟩ := by
  obtain ⟨hok, herror⟩ := (honest_opening n).looks us r r' hr
  obtain hopen | ⟨p, r₀, hopen, hne, hf⟩ := rule_error.mp h
  · exact rule_error.mpr (Or.inl (herror e d hopen))
  · obtain ⟨rfl, rfl, rfl⟩ := Mismatch.mk.inj hf
    exact rule_error.mpr (Or.inr ⟨p, r', hok p hopen, hr ▸ hne, rfl⟩)

/-! ### What lists that are parsed begin with -/

/-- **The tokens `ts` begin a program**: some list that is parsed begins with them. -/
def Begins (ts : List Token) : Prop := ∃ (us : List Token) (p : Program), parse (ts ++ us) = .ok p

/-- Tokens that can be completed begin a program. -/
lemma begins_of_viable {us : List Token} (hus : Inner us) (h : Viable Derives us) : Begins us := by
  obtain ⟨vs, p, hvs, hp⟩ := h
  refine ⟨vs, p, parse_of_derives ?_⟩
  rwa [significant_of_inner (inner_append.mpr ⟨hus, hvs⟩)]

/-- A program begins one, also with the end of input behind it. -/
lemma begins_eof {us : List Token} {p : Program} {t : Token} (hus : Inner us) (hp : Derives us p)
    (ht : t.kind = .eof) : Begins (us ++ [t]) := by
  refine ⟨[], p, parse_of_derives ?_⟩
  rwa [List.append_nil, significant_append hus, significant_eof ht, List.append_nil]

/-- **Where the rule gives up in front of a token**, no program goes on with it. -/
lemma not_begins_of_rule {n : Nat} {us r : List Token} {t : Token} {e : Expected} {d : Detail}
    (hn : budget (us ++ t :: r).length ≤ n) (hus : Inner us) (ht : t.kind ≠ .eof)
    (h : rule n (us ++ t :: r) = .error ⟨e, d, t :: r⟩) : ¬ Begins (us ++ [t]) := by
  rintro ⟨vs, p, hp⟩
  have hderives : Derives (us ++ t :: significant vs) p := by
    have hwhole := derives_of_parse hp
    have hinner : Inner (us ++ [t]) := inner_append.mpr ⟨hus, by simpa using ht⟩
    rwa [significant_append hinner, List.append_assoc] at hwhole
  -- with a budget for both lists, one is read and the other is not
  let m := max n (budget (us ++ t :: significant vs).length)
  have hlarge : rule m (us ++ t :: r) = .error ⟨e, d, t :: r⟩ := rule_error_of_budget (by omega) h
  have hsees : sees (t :: r) = sees (t :: significant vs) := by rw [sees_of_ne ht, sees_of_ne ht]
  have hfails : rule m (us ++ t :: significant vs) = .error ⟨e, d, t :: significant vs⟩ :=
    rule_error_congr hsees hlarge
  have hreads : rule m (us ++ t :: significant vs) = .ok (p, []) := hderives.complete (by omega)
  rw [hfails] at hreads
  exact absurd hreads (by simp)

/-! ### What an error says -/

/-- **How many tokens are read** before the parser is done or gives up. -/
def consumed (ts : List Token) : Nat :=
  match rule (budget (significant ts).length) (significant ts) with
  | .ok (_, rest) => (significant ts).length - rest.length
  | .error f => (significant ts).length - f.rest.length

/-- **The token that is reported** is the first one with which no program goes on, or the end of
input behind the last token. -/
lemma found_of_rule {ts us : List Token} {f : Mismatch}
    (h : rule (budget (significant ts).length) (significant ts) = .error f)
    (hus : significant ts = us ++ f.rest) :
    (∃ r, ts = us ++ f.rest.head?.getD (endToken ts) :: r
        ∧ ¬ Begins (us ++ [f.rest.head?.getD (endToken ts)]))
      ∨ (ts = us ∧ f.rest.head?.getD (endToken ts)
          = Token.eof ((ts.getLast?.map Token.pos).getD Pos.unset)) := by
  have hinner : Inner (us ++ f.rest) := hus ▸ significant_inner ts
  obtain ⟨husInner, hrestInner⟩ := inner_append.mp hinner
  obtain ⟨e, d, rest⟩ := f
  cases rest with
  | cons t r =>
      refine Or.inl ⟨r ++ ts.dropWhile fun t => t.kind != .eof, ?_, ?_⟩
      · have hts := List.takeWhile_append_dropWhile (p := fun t => t.kind != .eof) (l := ts)
        rw [show ts.takeWhile _ = us ++ t :: r from hus] at hts
        simpa using hts.symm
      · rw [hus] at h
        exact not_begins_of_rule le_rfl husInner (inner_cons.mp hrestInner).1 h
  | nil =>
      rw [List.append_nil] at hus
      subst hus
      obtain ⟨hts, hend⟩ | ⟨r, hts, hend⟩ := significant_or_eof ts
      · exact Or.inr ⟨hts, hend⟩
      · refine Or.inl ⟨r, hts, ?_⟩
        rintro ⟨vs, p, hp⟩
        -- a program that ends here would have been read
        have hderives : Derives (significant ts) p := by
          have hwhole : Derives (significant (significant ts ++ [endToken ts] ++ vs)) p :=
            derives_of_parse hp
          rwa [List.append_assoc, significant_append husInner, List.singleton_append,
            significant_eof hend, List.append_nil] at hwhole
        rw [hderives.complete le_rfl] at h
        exact absurd h (by simp)

/-- **Parse errors are reported at the earliest token, with an expectation that can be met.** The
tokens that are read begin a program; together with the token that is reported they do not, unless
that is an end of input at the place of the last token; and they do with a token of the kind that
the error names, if it names one. -/
theorem parse_error_earliest {ts : List Token} {e : ParseError} (h : parse ts = .error e) :
    Begins (ts.take (consumed ts))
      ∧ consumed ts ≤ ts.length
      ∧ (consumed ts < ts.length →
          ts[consumed ts]? = some e.found ∧ ¬ Begins (ts.take (consumed ts + 1)))
      ∧ (consumed ts = ts.length →
          e.found = Token.eof ((ts.getLast?.map Token.pos).getD Pos.unset))
      ∧ ∀ k, e.expected.shown = k.name →
          ∀ t : Token, t.kind = k → Begins (ts.take (consumed ts) ++ [t]) := by
  rw [parse_eq_of_budget, reported_error] at h
  obtain ⟨f, hf, rfl⟩ := h
  obtain ⟨us, hus, hviable, hkind⟩ := blames_of_rule hf
  have hinner : Inner us := (inner_append.mp (hus ▸ significant_inner ts)).1
  have hconsumed : consumed ts = us.length := by
    have hlength := congrArg List.length hus
    rw [List.length_append] at hlength
    rw [consumed, hf]
    exact Nat.sub_eq_of_eq_add hlength
  have htake : ts.take us.length = us := by
    have hprefix : us <+: ts := calc
      us <+: us ++ f.rest := List.prefix_append us f.rest
      _ = significant ts := hus.symm
      _ <+: ts := List.takeWhile_prefix _
    exact List.prefix_iff_eq_take.mp hprefix |>.symm
  rw [hconsumed, htake]
  refine ⟨begins_of_viable hinner hviable, ?_, ?_, ?_, ?_⟩
  · exact htake ▸ List.length_take_le' us.length ts
  · intro hlt
    obtain ⟨r, hts, hnot⟩ | ⟨rfl, -⟩ := found_of_rule hf hus
    · generalize f.rest.head?.getD (endToken ts) = t at hts hnot ⊢
      subst hts
      refine ⟨by simp, ?_⟩
      rwa [List.take_length_add_append, List.take_succ_cons, List.take_zero]
    · exact absurd hlt (lt_irrefl _)
  · intro heq
    obtain ⟨r, hts, -⟩ | ⟨-, hend⟩ := found_of_rule hf hus
    · rw [hts, List.length_append, List.length_cons] at heq
      omega
    · exact hend
  · intro k hk t ht
    have hexpected : f.expected = .kind k := by
      refine Expected.eq_kind_of_shown (fun k' hk' => ?_) hk
      exact (hkind k' hk').imp And.left And.left
    obtain ⟨hspelled, hnext⟩ | ⟨rfl, p, hp⟩ := hkind k hexpected
    · have hne : t.kind ≠ .eof := ht ▸ Kind.ne_eof_of_isSpelled hspelled
      exact begins_of_viable (inner_append.mpr ⟨hinner, by simpa using hne⟩) (hnext t ht)
    · exact begins_eof hinner hp ht

/-- A statement that is not ended: `print 1` in front of the closing phrase. -/
def unendedPrint : List Token :=
  [.ofKind .programStart, .ofKind .print, .ofKind .number, .ofKind .programEnd]

/-- The closing phrase is reported, and a semicolon could have stood in its place. -/
theorem parse_error_earliest_unended :
    (∃ e, parse unendedPrint = .error e ∧ e.expected = .kind .semicolon)
      ∧ consumed unendedPrint = 3
      ∧ ¬ Begins unendedPrint
      ∧ Begins (unendedPrint.take 3 ++ [.ofKind .semicolon]) := by
  obtain ⟨e, he, hexpected⟩ : ∃ e, parse unendedPrint = .error e ∧ e.expected = .kind .semicolon :=
    ⟨_, rfl, rfl⟩
  have hconsumed : consumed unendedPrint = 3 := rfl
  obtain ⟨-, -, hfound, -, hnext⟩ := parse_error_earliest he
  rw [hconsumed] at hfound hnext
  exact ⟨⟨e, he, hexpected⟩, hconsumed, (hfound (by decide)).2,
    hnext .semicolon (by rw [hexpected]; rfl) _ rfl⟩

end Program

end LessonLang
