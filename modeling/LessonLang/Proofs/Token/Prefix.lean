import LessonLang.Proofs.Token.Lines

/-!
Scanning the front of a text.

* Everything that can begin a text is some bytes at its front, so what begins a text also begins every
  longer one (`StartsGap.of_prefix` and the lemmas behind it). What a lexeme has to avoid is therefore
  still avoided when bytes behind it are cut off: `Lexeme.cut`.
* `LexError.Truthful` says what a fault asserts about the text behind its place: a string is opened
  there and never closed, or nothing begins there at all.
* `tokenize_fault`: the text in front of a fault has tokens, which end where the fault lies, and the
  fault is truthful.
-/

namespace LessonLang

/-! ### What begins a text -/

section Beginnings

variable {t u : Text}

lemma StartsGap.of_prefix (h : StartsGap t) (htu : t <+: u) : StartsGap u := by
  obtain ⟨c, hc, hstart⟩ | hstart := h
  · exact Or.inl ⟨c, hc, hstart.trans htu⟩
  · exact Or.inr (hstart.trans htu)

lemma StartsKeyword.of_prefix (h : StartsKeyword t) (htu : t <+: u) : StartsKeyword u := by
  obtain ⟨e, he, hstart⟩ := h
  exact ⟨e, he, hstart.trans htu⟩

lemma StartsLongOperator.of_prefix (h : StartsLongOperator t) (htu : t <+: u) :
    StartsLongOperator u := by
  obtain ⟨e, he, hstart⟩ := h
  exact ⟨e, he, hstart.trans htu⟩

lemma StartsShortOperator.of_prefix (h : StartsShortOperator t) (htu : t <+: u) :
    StartsShortOperator u := by
  obtain ⟨e, he, hstart⟩ := h
  exact ⟨e, he, hstart.trans htu⟩

end Beginnings

/-! ### Lexemes -/

variable {input front raw : Text} {kind : Kind}

/-- A run is still one when bytes behind it are cut off. -/
lemma IsRun.cut {p : UInt8 → Bool} {run : Text} (h : IsRun p input run) (hrun : run <+: front)
    (hfront : front <+: input) : IsRun p front run where
  starts := hrun
  all := h.all
  maximal b hb := h.maximal b (hb.trans hfront)

/-- **A lexeme is still the one at its place** when bytes behind it are cut off. -/
lemma Lexeme.cut (h : Lexeme input kind raw) (hraw : raw <+: front) (hfront : front <+: input) :
    Lexeme front kind raw := by
  have hkey' : ¬StartsKeyword input → ¬StartsKeyword front := fun hkey hstart =>
    hkey (hstart.of_prefix hfront)
  have hlong' : ¬StartsLongOperator input → ¬StartsLongOperator front := fun hlong hstart =>
    hlong (hstart.of_prefix hfront)
  have hshort' : ¬StartsShortOperator input → ¬StartsShortOperator front := fun hshort hstart =>
    hshort (hstart.of_prefix hfront)
  cases h with
  | keyword hmem _ hlongest =>
      exact .keyword hmem hraw fun e he hstart => hlongest e he (hstart.trans hfront)
  | longOperator hkey hmem _ => exact .longOperator (hkey' hkey) hmem hraw
  | shortOperator hkey hlong hmem _ => exact .shortOperator (hkey' hkey) (hlong' hlong) hmem hraw
  | string hkey hlong hshort hbody _ =>
      exact .string (hkey' hkey) (hlong' hlong) (hshort' hshort) hbody hraw
  | number hkey hlong hshort hne hrun =>
      exact .number (hkey' hkey) (hlong' hlong) (hshort' hshort) hne (hrun.cut hraw hfront)
  | identifier hkey hlong hshort hb hrun =>
      exact .identifier (hkey' hkey) (hlong' hlong) (hshort' hshort) hb (hrun.cut hraw hfront)

/-! ### Faults -/

/-- **The character at the front of a text** as it is decoded: the one that is encoded there, or the
replacement character if none is. -/
def Decodes (t : Text) (c : Char) : Prop :=
  String.utf8EncodeChar c <+: t ∨ c = '\ufffd' ∧ ∀ d : Char, ¬String.utf8EncodeChar d <+: t

/-- **What a fault asserts** about the text behind its place, in its message and its character. -/
inductive LexError.Truthful (behind : Text) (e : LexError) : Prop where
  /-- a string is opened, and no quotation mark that is not shielded closes it -/
  | unterminated {rest : Text} (hreason : e.reason = utf8 "unterminated string")
      (hchar : e.char = '"') (hquote : behind = 0x22 :: rest)
      (hopen : ∀ body, Enclosed body → ¬body ++ [0x22] <+: rest)
  /-- neither a gap nor any lexeme begins here -/
  | unrecognized {b : UInt8} {rest : Text} (hreason : e.reason = utf8 "unrecognized character")
      (hchar : Decodes behind e.char) (hfirst : behind = b :: rest) (hgap : ¬StartsGap behind)
      (hkeyword : ¬StartsKeyword behind) (hlong : ¬StartsLongOperator behind)
      (hshort : ¬StartsShortOperator behind) (hquote : b ≠ 0x22) (hdigit : isDigit b = false)
      (hname : isNameStart b = false)

/-- What is read as a stray byte is the front of no character. -/
lemma not_encode_prefix {b b' : UInt8} {rest : Text} (h : (Text.first b rest).1 = .stray b')
    (d : Char) : ¬String.utf8EncodeChar d <+: b :: rest := by
  rintro ⟨after, heq⟩
  obtain ⟨b₀, tail, hbytes, hreads⟩ := Text.reads_encode d after
  obtain ⟨rfl, rfl⟩ := List.cons.inj (heq.symm.trans hbytes)
  rw [Text.first_eq_of_reads hreads] at h
  exact absurd h (by simp)

/-- **Where scanning finds no lexeme**, the fault that it reports is truthful. -/
lemma truthful_of_lexeme {b : UInt8} {rest : Text} {fault : LexFault} (pos : Pos)
    (hstart : ¬StartsGap (b :: rest)) (h : lexeme b rest = .error fault) :
    LexError.Truthful (b :: rest) ⟨fault, pos⟩ := by
  rw [lexeme] at h
  split at h
  next => exact absurd h (by simp)
  next hkey =>
  split at h
  next => exact absurd h (by simp)
  next hlong =>
  split at h
  next => exact absurd h (by simp)
  next hshort =>
  split_ifs at h with hquote hdigit hname
  · -- a string
    split at h
    next => exact absurd h (by simp)
    next hclose =>
      obtain rfl := Except.error.inj h
      obtain rfl := beq_iff_eq.mp hquote
      refine .unterminated rfl rfl rfl fun body hbody => ?_
      rintro ⟨after, rfl⟩
      rw [List.append_assoc, List.singleton_append, hbody.closingQuote_eq after] at hclose
      exact absurd hclose (by simp)
  · -- no lexeme at all
    have hkey := keywordAt_eq_none_iff.mp hkey
    have hlong := longOperators_lookup_eq_none.mp hlong
    have hshort : ¬StartsShortOperator (b :: rest) := shortOperators_lookup_eq_none.mp hshort
    have hquote : b ≠ 0x22 := by simpa using hquote
    rw [Bool.not_eq_true] at hdigit hname
    split at h
    next c hc =>
      obtain rfl := Except.error.inj h
      refine .unrecognized rfl (Or.inl ?_) rfl hstart hkey hlong hshort hquote hdigit hname
      have hreads := Text.reads_first b rest
      rw [hc] at hreads
      change String.utf8EncodeChar c <+: b :: rest
      rw [← hreads.take_eq]
      exact List.take_prefix _ _
    next b' hc =>
      obtain rfl := Except.error.inj h
      exact .unrecognized rfl (Or.inr ⟨rfl, not_encode_prefix hc⟩) rfl hstart hkey hlong hshort
        hquote hdigit hname

/-- **Scanning up to a fault.** A text with a fault has a front that has tokens. Their end is where the
fault lies, and what the fault says is so behind it. -/
lemma tokenizeFrom_front (src : Text) {pos : Pos} {e : LexError}
    (h : tokenizeFrom pos src = .error e) :
    ∃ before behind us, src = before ++ behind ∧ e.pos = pos.advance before
      ∧ tokenizeFrom pos before = .ok (us ++ [Token.eof e.pos]) ∧ (∀ t ∈ us, t.kind ≠ .eof)
      ∧ e.Truthful behind := by
  induction src using scan_induction generalizing pos with
  | gap g hg =>
      rw [tokenizeFrom_gap pos hg] at h
      exact absurd h (by simp)
  | fault g b rest fault hg hstart hlex =>
      rw [tokenizeFrom_fault pos hg hstart hlex] at h
      obtain rfl := Except.error.inj h
      have hgap : IsGap [] g := hg.of_head (by simp)
      exact ⟨g, b :: rest, [], rfl, rfl, tokenizeFrom_gap pos hgap, by simp,
        truthful_of_lexeme _ hstart hlex⟩
  | lexeme g raw after kind hg hstart hlex ih =>
      have hrest := (tokenizeFrom_lexeme_eq_error_iff hg hstart hlex).mp h
      obtain ⟨before, behind, us, rfl, hpos, htokens, hus, htrue⟩ := ih hrest
      -- the gap and the lexeme are the same in front of the shorter text
      have hfront : raw ++ before <+: raw ++ (before ++ behind) :=
        ⟨behind, List.append_assoc raw before behind⟩
      have hgap : IsGap (raw ++ before) g := by
        refine hg.of_head fun c hc => Or.inr ?_
        rwa [List.head?_append_of_ne_nil _ hlex.ne_nil] at hc ⊢
      have hstart' : ¬StartsGap (raw ++ before) := fun hs => hstart (hs.of_prefix hfront)
      have hlex' := hlex.cut (List.prefix_append raw before) hfront
      refine ⟨g ++ (raw ++ before), behind, Token.ofLexeme kind raw (pos.advance g) :: us,
        by simp only [List.append_assoc], ?_, ?_, ?_, htrue⟩
      · rw [hpos, Pos.advance_append, Pos.advance_append]
      · rw [tokenizeFrom_lexeme pos hgap hstart' hlex', htokens]
        rfl
      · intro t ht
        obtain rfl | ht := List.mem_cons.mp ht
        · rw [Token.ofLexeme_kind]
          exact hlex.kind_cases.1
        · exact hus t ht

/-- **Faults are local and truthful.** If scanning a text fails with a fault at the offset `o`, then the
first `o` bytes of the text have tokens, whose end of input stands at exactly the place of the fault,
and the fault says what is wrong with the bytes behind these. -/
theorem tokenize_fault {src : Text} {e : LexError} (h : tokenize src = .error e) :
    ∃ o : Nat, e.pos.offset = o
      ∧ (∃ us, tokenize (src.take o) = .ok (us ++ [Token.eof e.pos]) ∧ ∀ t ∈ us, t.kind ≠ .eof)
      ∧ e.Truthful (src.drop o) := by
  obtain ⟨before, behind, us, rfl, hpos, htokens, hus, htrue⟩ := tokenizeFrom_front src h
  refine ⟨before.length, ?_, ⟨us, ?_, hus⟩, ?_⟩
  · rw [hpos, Pos.advance_offset]
    exact zero_add _
  · rw [List.take_left]
    exact htokens
  · rw [List.drop_left]
    exact htrue

/-- The front of a keyword phrase that is broken off by a byte of no character is two words. -/
theorem tokenize_fault_stray :
    tokenize (utf8 "jodi dad" ++ [0xe0, 0x61]) = .error ⟨.unrecognized '\ufffd', ⟨8, 1, 9⟩⟩
      ∧ (∃ us, tokenize (utf8 "jodi dad") = .ok (us ++ [Token.eof ⟨8, 1, 9⟩]))
      ∧ LexError.Truthful [0xe0, 0x61] ⟨.unrecognized '\ufffd', ⟨8, 1, 9⟩⟩ := by
  have h : tokenize (utf8 "jodi dad" ++ [0xe0, 0x61])
      = .error ⟨.unrecognized '\ufffd', ⟨8, 1, 9⟩⟩ := by cbv
  obtain ⟨o, ho, ⟨us, hus, -⟩, htrue⟩ := tokenize_fault h
  obtain rfl : o = 8 := Int.ofNat.inj ho.symm
  exact ⟨h, ⟨us, hus⟩, htrue⟩

end LessonLang
