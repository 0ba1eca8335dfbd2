import LessonLang.Proofs.Grammar.Layout
import LessonLang.Proofs.Token.Prefix

/-!
Listing lexemes.

* `listing` writes the bytes of tokens one below the other.
* A token is `Token.Alone` if its bytes, with nothing around them, are scanned as that token. Every token
  of a source text is, whatever it stood between (`alone_of_tokenizeFrom`).
* `tokenize_listing`: so the listing of the tokens of a source text has the same tokens again, at other
  places. Its lines are put together by `tokenizeFrom_newline`.
-/

namespace LessonLang

/-- The bytes of tokens, with a newline between one token and the next. -/
def listing (ts : List Token) : Text := Text.join [newline] (ts.map Token.raw)

lemma listing_singleton (t : Token) : listing [t] = t.raw := rfl

lemma listing_cons_cons (t u : Token) (ts : List Token) :
    listing (t :: u :: ts) = t.raw ++ newline :: listing (u :: ts) := by
  rw [listing, List.map_cons, List.map_cons, Text.join, List.append_assoc, List.singleton_append]
  · rfl
  · simp

/-! ### Tokens on their own -/

namespace Token

/-- **A token stands alone** if its bytes are scanned as that token and nothing else. -/
def Alone (t : Token) : Prop :=
  t.kind ≠ .eof ∧ ∃ u p, tokenize t.raw = .ok [u, Token.eof p] ∧ t.Alike u

lemma Alike.shift {t u : Token} (h : t.Alike u) (bytes lines : Int) :
    t.Alike (u.shift bytes lines) :=
  ⟨h.kind, h.text, h.number⟩

/-- The place of a lexeme changes nothing else about its token. -/
lemma ofLexeme_alike (kind : Kind) (raw : Text) (p q : Pos) :
    (ofLexeme kind raw p).Alike (ofLexeme kind raw q) := by
  cases kind <;> exact ⟨rfl, rfl, rfl⟩

/-- **A lexeme is recognised without what was behind it.** -/
lemma alone_of_lexeme {raw after : Text} {kind : Kind} (hstart : ¬StartsGap (raw ++ after))
    (hlex : Lexeme (raw ++ after) kind raw) (pos : Pos) : (ofLexeme kind raw pos).Alone := by
  have hfront : raw <+: raw ++ after := List.prefix_append raw after
  have hstart' : ¬StartsGap (raw ++ []) := by
    rw [List.append_nil]
    exact fun hs => hstart (hs.of_prefix hfront)
  have hlex' : Lexeme (raw ++ []) kind raw := by
    rw [List.append_nil]
    exact hlex.cut List.prefix_rfl hfront
  have hscan := tokenizeFrom_lexeme Pos.start (g := []) .nil hstart' hlex'
  rw [tokenizeFrom_gap _ .nil, List.append_nil, List.nil_append] at hscan
  refine ⟨?_, ofLexeme kind raw Pos.start, Pos.start.advance raw, ?_,
    ofLexeme_alike kind raw pos Pos.start⟩
  · rw [ofLexeme_kind]
    exact hlex.kind_cases.1
  · rw [ofLexeme_raw pos hlex]
    exact hscan

end Token

/-- **The tokens of a text** stand alone, up to the end of input. -/
lemma alone_of_tokenizeFrom (src : Text) {pos : Pos} {ts : List Token}
    (h : tokenizeFrom pos src = .ok ts) :
    ∃ us p, ts = us ++ [Token.eof p] ∧ ∀ t ∈ us, t.Alone := by
  induction src using scan_induction generalizing pos ts with
  | gap g hg =>
      rw [tokenizeFrom_gap pos hg] at h
      obtain rfl := Except.ok.inj h
      exact ⟨[], _, rfl, by simp⟩
  | fault g b rest fault hg hstart hlex =>
      rw [tokenizeFrom_fault pos hg hstart hlex] at h
      exact absurd h (by simp)
  | lexeme g raw after kind hg hstart hlex ih =>
      obtain ⟨ts', hscan, rfl⟩ := (tokenizeFrom_lexeme_eq_ok_iff hg hstart hlex).mp h
      obtain ⟨us, p, rfl, hus⟩ := ih hscan
      exact ⟨_ :: us, p, rfl,
        List.forall_mem_cons.mpr ⟨Token.alone_of_lexeme hstart hlex _, hus⟩⟩

/-! ### Listings -/

/-- The end of input has no bytes, so it only ends the line in front of it. -/
lemma listing_eof (us : List Token) (p : Pos) :
    listing (us ++ [Token.eof p]) = listing us ++ if us = [] then [] else [newline] := by
  induction us with
  | nil => rfl
  | cons t us ih =>
      cases us with
      | nil => exact listing_cons_cons t (Token.eof p) []
      | cons u us =>
          rw [if_neg (by simp)] at ih ⊢
          rw [List.cons_append, List.cons_append, listing_cons_cons, ← List.cons_append, ih,
            listing_cons_cons, List.append_assoc, List.cons_append]

/-- **A token on a line of its own**, in front of lines that have tokens. -/
lemma Token.Alone.line {t : Token} (ht : t.Alone) {b : Text} {ts vs : List Token}
    (hb : tokenize b = .ok vs) (hvs : List.Forall₂ Token.Alike ts vs) :
    ∃ ws, tokenize (t.raw ++ newline :: b) = .ok ws ∧ List.Forall₂ Token.Alike (t :: ts) ws := by
  obtain ⟨-, u, p, hu, htu⟩ := ht
  obtain ⟨us, e, hsplit, -, -, hlines⟩ := tokenizeFrom_newline t.raw hu
  obtain rfl : us = [u] := by
    have hlast := congrArg List.dropLast hsplit
    rw [List.dropLast_concat] at hlast
    exact hlast.symm
  rw [tokenize] at hb
  rw [tokenize, hlines, Pos.start_newline, tokenizeFrom_shift, hb]
  refine ⟨_, rfl, .cons htu (List.forall₂_map_right_iff.mpr ?_)⟩
  exact hvs.imp fun v w h => h.shift _ _

/-- **The listing of tokens that stand alone** has these tokens, with or without a newline at its
end. -/
lemma tokenize_listing_of_alone {us : List Token} (hus : ∀ t ∈ us, t.Alone) {last : Text}
    (hlast : last = [] ∨ last = [newline]) (p : Pos) :
    ∃ vs, tokenize (listing us ++ last) = .ok vs
      ∧ List.Forall₂ Token.Alike (us ++ [Token.eof p]) vs := by
  have hend : ∀ q, List.Forall₂ Token.Alike [Token.eof p] [Token.eof q] := fun q =>
    .cons ⟨rfl, rfl, rfl⟩ .nil
  have hnil : tokenize [] = .ok [Token.eof Pos.start] := tokenizeFrom_gap _ .nil
  induction us with
  | nil =>
      obtain rfl | rfl := hlast
      · exact ⟨_, hnil, hend _⟩
      · exact ⟨_, tokenizeFrom_gap _ (isGap_newline []), hend _⟩
  | cons t us ih =>
      obtain ⟨ht, hrest⟩ := List.forall_mem_cons.mp hus
      cases us with
      | nil =>
          rw [listing_singleton]
          obtain rfl | rfl := hlast
          · obtain ⟨-, u, q, hu, htu⟩ := ht
            rw [List.append_nil]
            exact ⟨_, hu, .cons htu (hend q)⟩
          · exact ht.line hnil (hend _)
      | cons u us =>
          obtain ⟨vs, hvs, hall⟩ := ih hrest
          rw [listing_cons_cons, List.append_assoc, List.cons_append]
          exact ht.line hvs hall

/-- **Tokens are scanned again as themselves.** The lexemes of the tokens of a source text, written one
below the other, are the lexemes of that listing: it has tokens of the same kinds, spellings and
values in the same order, and one end of input behind them. It does not matter whether the end of
input, which has no lexeme, gets a line of its own. -/
theorem tokenize_listing {src text : Text} {ts : List Token} (h : tokenize src = .ok ts)
    (htext : text = listing ts ∨ text = listing ts.dropLast) :
    ∃ vs e, tokenize text = .ok (vs ++ [e]) ∧ List.Forall₂ Token.Alike ts (vs ++ [e])
      ∧ e.kind = .eof ∧ ∀ v ∈ vs, v.kind ≠ .eof := by
  obtain ⟨us, p, rfl, hus⟩ := alone_of_tokenizeFrom src h
  obtain ⟨last, hlast, rfl⟩ : ∃ last, (last = [] ∨ last = [newline]) ∧ text = listing us ++ last := by
    obtain rfl | rfl := htext
    · exact ⟨_, by split_ifs <;> simp, listing_eof us p⟩
    · exact ⟨[], Or.inl rfl, by rw [List.dropLast_concat, List.append_nil]⟩
  obtain ⟨ws, hws, hall⟩ := tokenize_listing_of_alone hus hlast p
  obtain ⟨vs, q, rfl, hvs⟩ := alone_of_tokenizeFrom _ hws
  exact ⟨vs, Token.eof q, hws, hall, rfl, fun v hv => (hvs v hv).1⟩

/-- Pieces of a keyword phrase, operators that touch, a comment, and a string over two lines with a
quotation mark in it. -/
theorem tokenize_listing_touching :
    ∃ ts vs e, tokenize (utf8 "dada e===je//\n/\"//\n\\\"\"") = .ok ts
      ∧ listing ts = utf8 "dada\ne\n==\n=\nje\n/\n\"//\n\\\"\"\n"
      ∧ tokenize (listing ts) = .ok (vs ++ [e]) ∧ List.Forall₂ Token.Alike ts (vs ++ [e]) := by
  have hts : tokenize (utf8 "dada e===je//\n/\"//\n\\\"\"")
      = .ok [⟨.identifier, utf8 "dada", 0, ⟨0, 1, 1⟩⟩, ⟨.identifier, utf8 "e", 0, ⟨5, 1, 6⟩⟩,
          ⟨.equal, utf8 "==", 0, ⟨6, 1, 7⟩⟩, ⟨.assign, utf8 "=", 0, ⟨8, 1, 9⟩⟩,
          ⟨.identifier, utf8 "je", 0, ⟨9, 1, 10⟩⟩, ⟨.slash, utf8 "/", 0, ⟨14, 2, 1⟩⟩,
          ⟨.string, utf8 "//\n\\\"", 0, ⟨15, 2, 2⟩⟩, Token.eof ⟨22, 3, 4⟩] := by cbv
  obtain ⟨vs, e, hvs, hall, -⟩ := tokenize_listing hts (Or.inl rfl)
  exact ⟨_, vs, e, hts, by decide +kernel, hvs, hall⟩

end LessonLang
