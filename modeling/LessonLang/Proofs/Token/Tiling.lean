import LessonLang.Proofs.Token.Gap
import LessonLang.Proofs.Token.Lexeme

/-!
Tokens tile the source text.

* `scan_induction` cuts a text the way scanning does: it is a gap, or a gap and then something that
  is no lexeme, or a gap, a lexeme and a shorter text. Three equations say what `tokenizeFrom` makes
  of each (`tokenizeFrom_gap`, `tokenizeFrom_fault`, `tokenizeFrom_lexeme`).
* `Tiles` says that gaps and the lexemes of some tokens, one after the other, are a whole text, and
  `Tiling` spells out what follows for the places of the tokens.
* `tokenize_tiling`: the tokens of a source text tile it, and a text that has no tokens cannot be
  tiled.
-/

namespace LessonLang

/-- The bytes of a token in the source text: its spelling, with the quotation marks of a string. -/
def Token.raw (t : Token) : Text :=
  match t.kind with
  | .string => 0x22 :: (t.text ++ [0x22])
  | _ => t.text

/-! ### How a text is cut -/

/-- **Every text begins with a gap**, and behind it the text ends, or no lexeme begins, or one
does. -/
theorem scan_induction {motive : Text → Prop} (gap : ∀ g, IsGap [] g → motive g)
    (fault : ∀ g b rest fault, IsGap (b :: rest) g → ¬StartsGap (b :: rest) →
      lexeme b rest = .error fault → motive (g ++ b :: rest))
    (lexeme : ∀ g raw after kind, IsGap (raw ++ after) g → ¬StartsGap (raw ++ after) →
      Lexeme (raw ++ after) kind raw → motive after → motive (g ++ (raw ++ after)))
    (src : Text) : motive src := by
  induction hn : src.length using Nat.strong_induction_on generalizing src with
  | _ n ih =>
    obtain ⟨g, behind, rfl, hg, hstart⟩ := exists_gap src
    cases behind with
    | nil =>
        rw [List.append_nil]
        exact gap g hg
    | cons b rest =>
        cases hlex : LessonLang.lexeme b rest with
        | error f => exact fault g b rest f hg hstart hlex
        | ok found =>
            obtain ⟨raw, hraw, hlen⟩ := exists_lexeme hlex
            obtain ⟨after, heq⟩ := hraw.starts
            rw [← heq] at hg hstart hraw hn ⊢
            refine lexeme g raw after found.1 hg hstart hraw (ih after.length ?_ after rfl)
            simp only [List.length_append] at hn
            omega

/-- **One round of scanning** a text that begins with a gap. -/
lemma tokenizeFrom_append (pos : Pos) (g behind : Text) : IsGap behind g → ¬StartsGap behind →
    tokenizeFrom pos (g ++ behind) =
      match behind with
      | [] => .ok [Token.eof (pos.advance g)]
      | b :: rest =>
        match lexeme b rest with
        | .error fault => .error ⟨fault, pos.advance g⟩
        | .ok (kind, n) =>
          (tokenizeFrom ((pos.advance g).advance (b :: rest.take n)) (rest.drop n)).map
            (Token.ofLexeme kind (b :: rest.take n) (pos.advance g) :: ·) := by
  intro hg hstart
  have hdrop : (g ++ behind).drop (gapLength (.blank 0) (g ++ behind)) = behind := by
    rw [hg.gapLength_eq hstart, List.drop_left]
  have htake : (g ++ behind).take (gapLength (.blank 0) (g ++ behind)) = g := by
    rw [hg.gapLength_eq hstart, List.take_left]
  rw [tokenizeFrom, htake]
  split
  next h =>
    obtain rfl := hdrop.symm.trans h
    rfl
  next b rest h =>
    obtain rfl := hdrop.symm.trans h
    dsimp only
    cases lexeme b rest with
    | error fault => rfl
    | ok found =>
        obtain ⟨kind, n⟩ := found
        dsimp only
        cases tokenizeFrom ((pos.advance g).advance (b :: rest.take n)) (rest.drop n) <;> rfl

/-- A gap up to the end of the text. -/
lemma tokenizeFrom_gap (pos : Pos) {g : Text} (hg : IsGap [] g) :
    tokenizeFrom pos g = .ok [Token.eof (pos.advance g)] := by
  simpa using tokenizeFrom_append pos g [] hg not_startsGap_nil

/-- A gap, and behind it no lexeme. -/
lemma tokenizeFrom_fault (pos : Pos) {g : Text} {b : UInt8} {rest : Text} {fault : LexFault}
    (hg : IsGap (b :: rest) g) (hstart : ¬StartsGap (b :: rest))
    (hlex : lexeme b rest = .error fault) :
    tokenizeFrom pos (g ++ b :: rest) = .error ⟨fault, pos.advance g⟩ := by
  rw [tokenizeFrom_append pos g (b :: rest) hg hstart]
  dsimp only
  rw [hlex]

/-- A gap, and behind it a lexeme. -/
lemma tokenizeFrom_lexeme (pos : Pos) {g raw after : Text} {kind : Kind}
    (hg : IsGap (raw ++ after) g) (hstart : ¬StartsGap (raw ++ after))
    (hlex : Lexeme (raw ++ after) kind raw) :
    tokenizeFrom pos (g ++ (raw ++ after)) =
      (tokenizeFrom ((pos.advance g).advance raw) after).map
        (Token.ofLexeme kind raw (pos.advance g) :: ·) := by
  rw [tokenizeFrom_append pos g (raw ++ after) hg hstart]
  cases raw with
  | nil => exact absurd rfl hlex.ne_nil
  | cons b more =>
      rw [List.cons_append] at hlex ⊢
      dsimp only
      rw [hlex.lexeme_eq]
      simp

section Found

variable {pos : Pos} {g raw after : Text} {kind : Kind}

/-- Tokens from a lexeme on are its own and those behind it. -/
lemma tokenizeFrom_lexeme_eq_ok_iff {ts : List Token} (hg : IsGap (raw ++ after) g)
    (hstart : ¬StartsGap (raw ++ after)) (hlex : Lexeme (raw ++ after) kind raw) :
    tokenizeFrom pos (g ++ (raw ++ after)) = .ok ts
      ↔ ∃ ts', tokenizeFrom ((pos.advance g).advance raw) after = .ok ts'
          ∧ ts = Token.ofLexeme kind raw (pos.advance g) :: ts' := by
  rw [tokenizeFrom_lexeme pos hg hstart hlex]
  cases tokenizeFrom ((pos.advance g).advance raw) after <;> simp [Except.map, eq_comm]

/-- A fault is behind the lexemes. -/
lemma tokenizeFrom_lexeme_eq_error_iff {e : LexError} (hg : IsGap (raw ++ after) g)
    (hstart : ¬StartsGap (raw ++ after)) (hlex : Lexeme (raw ++ after) kind raw) :
    tokenizeFrom pos (g ++ (raw ++ after)) = .error e
      ↔ tokenizeFrom ((pos.advance g).advance raw) after = .error e := by
  rw [tokenizeFrom_lexeme pos hg hstart hlex]
  cases tokenizeFrom ((pos.advance g).advance raw) after <;> simp [Except.map]

end Found

/-! ### Tilings -/

namespace Token

variable (kind : Kind) (raw : Text) (pos : Pos)

@[simp] lemma ofLexeme_kind : (ofLexeme kind raw pos).kind = kind := by
  cases kind <;> rfl

@[simp] lemma ofLexeme_pos : (ofLexeme kind raw pos).pos = pos := by
  cases kind <;> rfl

variable {kind raw}

/-- A token has the bytes of its lexeme. -/
lemma ofLexeme_raw {input : Text} (h : Lexeme input kind raw) :
    (ofLexeme kind raw pos).raw = raw := by
  by_cases hstring : kind = .string
  · obtain ⟨body, rfl⟩ := h.kind_cases.2 hstring
    subst hstring
    simp [ofLexeme, Token.raw]
  · cases kind <;> first | exact absurd rfl hstring | rfl

end Token

/-- **Gaps and lexemes** of tokens, one after the other, are a whole text, which begins at the
offset `n`. Every gap is as long as it can be, and every lexeme is the one that the rules prescribe
at its place. -/
inductive Tiles : Nat → Text → List Token → Prop where
  | last {n : Nat} {g : Text} {t : Token} (hg : IsGap [] g) (hkind : t.kind = .eof)
      (htext : t.text = []) (hpos : t.pos.offset = n + g.length) : Tiles n g [t]
  | next {n : Nat} {g after : Text} {t : Token} {ts : List Token}
      (hg : IsGap (t.raw ++ after) g) (hstart : ¬StartsGap (t.raw ++ after))
      (hlex : Lexeme (t.raw ++ after) t.kind t.raw) (hpos : t.pos.offset = n + g.length)
      (h : Tiles (n + g.length + t.raw.length) after ts) :
      Tiles n (g ++ (t.raw ++ after)) (t :: ts)

/-- **A tiling** of a source text by tokens. -/
structure Tiling (src : Text) (ts : List Token) : Prop where
  /-- gaps and lexemes are all of the text -/
  tiles : Tiles 0 src ts
  /-- the end of input is the last token and no other, and it stands behind the text -/
  last : ∃ (us : List Token) (e : Token), ts = us ++ [e] ∧ e.kind = .eof
    ∧ e.pos.offset = src.length ∧ ∀ t ∈ us, t.kind ≠ .eof
  /-- the bytes of a token are those at its offset, and the rules prescribe them there -/
  spelled : ∀ t ∈ ts, ∃ k : Nat, t.pos.offset = k ∧ t.raw <+: src.drop k
    ∧ (t.kind ≠ .eof → Lexeme (src.drop k) t.kind t.raw)
  /-- tokens stand one behind the other -/
  ordered : ts.Pairwise fun t u : Token => t.pos.offset + t.raw.length ≤ u.pos.offset

namespace Tiles

variable {n : Nat} {text : Text} {ts : List Token}

lemma last_eof (h : Tiles n text ts) : ∃ (us : List Token) (e : Token), ts = us ++ [e]
    ∧ e.kind = .eof ∧ e.pos.offset = n + text.length ∧ ∀ t ∈ us, t.kind ≠ .eof := by
  induction h with
  | @last n g t _ hkind _ hpos => exact ⟨[], t, rfl, hkind, hpos, by simp⟩
  | @next n g after t ts _ _ hlex _ _ ih =>
      obtain ⟨us, e, rfl, hkind, hpos, hus⟩ := ih
      refine ⟨t :: us, e, rfl, hkind, ?_, ?_⟩
      · rw [hpos]
        simp only [List.length_append, Nat.cast_add]
        omega
      · intro u hu
        obtain rfl | hu := List.mem_cons.mp hu
        · exact hlex.kind_cases.1
        · exact hus u hu

/-- A token stands in the text at the distance of its offset. -/
lemma spelled (h : Tiles n text ts) : ∀ t ∈ ts, ∃ k : Nat, t.pos.offset = n + k
    ∧ t.raw <+: text.drop k ∧ (t.kind ≠ .eof → Lexeme (text.drop k) t.kind t.raw) := by
  induction h with
  | @last n g t _ hkind htext hpos =>
      intro u hu
      obtain rfl := List.mem_singleton.mp hu
      refine ⟨g.length, hpos, ?_, fun hne => absurd hkind hne⟩
      rw [Token.raw, hkind, htext]
      exact List.nil_prefix
  | @next n g after t ts _ _ hlex hpos _ ih =>
      intro u hu
      obtain rfl | hu := List.mem_cons.mp hu
      · exact ⟨g.length, hpos, by simp, fun _ => by simpa using hlex⟩
      · obtain ⟨k, hk, hraw, hlex⟩ := ih u hu
        have hdrop : (g ++ (t.raw ++ after)).drop (g.length + t.raw.length + k) = after.drop k := by
          rw [← List.append_assoc, ← List.length_append, ← List.drop_drop, List.drop_left]
        refine ⟨g.length + t.raw.length + k, ?_, by rwa [hdrop], by rwa [hdrop]⟩
        rw [hk]
        push_cast
        omega

/-- No token stands in front of the text. -/
lemma offset_ge (h : Tiles n text ts) : ∀ t ∈ ts, (n : Int) ≤ t.pos.offset := by
  intro t ht
  obtain ⟨k, hk, -⟩ := h.spelled t ht
  omega

lemma ordered (h : Tiles n text ts) :
    ts.Pairwise fun t u : Token => t.pos.offset + t.raw.length ≤ u.pos.offset := by
  induction h with
  | last => exact List.pairwise_singleton _ _
  | @next n g after t ts _ _ _ hpos hrest ih =>
      refine List.pairwise_cons.mpr ⟨fun u hu => ?_, ih⟩
      have hle := hrest.offset_ge u hu
      rw [hpos]
      push_cast at hle
      exact hle

/-- The gap at the front of a tiled text is its first gap. -/
lemma behind_gap {g behind : Text} (h : Tiles n (g ++ behind) ts) (hg : IsGap behind g)
    (hstart : ¬StartsGap behind) :
    (behind = [] ∧ ∃ t, ts = [t]) ∨ ∃ t ts' after, ts = t :: ts' ∧ behind = t.raw ++ after
      ∧ Lexeme behind t.kind t.raw ∧ Tiles (n + g.length + t.raw.length) after ts' := by
  generalize htext : g ++ behind = text at h
  cases h with
  | @last _ _ t hg' =>
      obtain ⟨rfl, rfl⟩ := gap_unique hg hstart hg' not_startsGap_nil (by simpa using htext)
      exact Or.inl ⟨rfl, t, rfl⟩
  | @next _ _ after t ts hg' hstart' hlex _ hrest =>
      obtain ⟨rfl, rfl⟩ := gap_unique hg hstart hg' hstart' htext
      exact Or.inr ⟨t, ts, after, rfl, rfl, hlex, hrest⟩

lemma tiling {src : Text} (h : Tiles 0 src ts) : Tiling src ts where
  tiles := h
  last := by simpa using h.last_eof
  spelled := by simpa using h.spelled
  ordered := h.ordered

end Tiles

/-! ### Scanning -/

@[simp] lemma Pos.advance_offset (p : Pos) (t : Text) :
    (p.advance t).offset = p.offset + t.length := by
  induction t generalizing p with
  | nil => simp [advance]
  | cons b t ih =>
      have hstep : (p.step b).offset = p.offset + 1 := by
        rw [step]
        split_ifs <;> rfl
      show ((p.step b).advance t).offset = _
      rw [ih, hstep, List.length_cons]
      push_cast
      omega

/-- **Scanning tiles** the text, or there is no way to tile it. -/
lemma tokenizeFrom_tiles (src : Text) {pos : Pos} {n : Nat} (hpos : pos.offset = n) :
    match tokenizeFrom pos src with
    | .ok ts => Tiles n src ts
    | .error _ => ∀ ts, ¬Tiles n src ts := by
  induction src using scan_induction generalizing pos n with
  | gap g hg =>
      rw [tokenizeFrom_gap pos hg]
      exact .last hg rfl rfl (by simp [Token.eof, hpos])
  | fault g b rest fault hg hstart hlex =>
      rw [tokenizeFrom_fault pos hg hstart hlex]
      intro ts h
      obtain ⟨hnil, -⟩ | ⟨t, ts, after, -, -, ht, -⟩ := h.behind_gap hg hstart
      · exact absurd hnil (by simp)
      · exact absurd (hlex.symm.trans ht.lexeme_eq) (by simp)
  | lexeme g raw after kind hg hstart hlex ih =>
      rw [tokenizeFrom_lexeme pos hg hstart hlex]
      have hbehind : ((pos.advance g).advance raw).offset = (n + g.length + raw.length : Nat) := by
        simp [hpos]
      have hrest := ih hbehind
      cases hscan : tokenizeFrom ((pos.advance g).advance raw) after with
      | error e =>
          rw [hscan] at hrest
          intro ts h
          obtain ⟨hnil, -⟩ | ⟨t, ts, after', -, heq, ht, hts⟩ := h.behind_gap hg hstart
          · exact hlex.ne_nil (List.append_eq_nil_iff.mp hnil).1
          · obtain ⟨-, hraw⟩ := hlex.unique ht
            rw [← hraw] at heq hts
            obtain rfl := List.append_cancel_left heq
            exact hrest ts hts
      | ok ts =>
          rw [hscan] at hrest
          have hraw := Token.ofLexeme_raw (pos.advance g) hlex
          have htiles := @Tiles.next n g after (Token.ofLexeme kind raw (pos.advance g)) ts
          rw [hraw, Token.ofLexeme_kind, Token.ofLexeme_pos] at htiles
          exact htiles hg hstart hlex (by simp [hpos]) hrest

/-- **Tokens tile the source text.** Scanning comes to an end on every text. If it finds tokens,
they tile the text, and if it does not, nothing tiles it. -/
theorem tokenize_tiling (src : Text) :
    match tokenize src with
    | .ok ts => Tiling src ts
    | .error _ => ∀ ts, ¬Tiling src ts := by
  have h := tokenizeFrom_tiles src (show Pos.start.offset = (0 : Nat) from rfl)
  rw [tokenize]
  cases hscan : tokenizeFrom Pos.start src with
  | error e =>
      rw [hscan] at h
      exact fun ts hts => h ts hts.tiles
  | ok ts =>
      rw [hscan] at h
      exact h.tiling

end LessonLang
