import Mathlib
import LessonLang.Proofs.Token.Position

/-!
Scanning line by line.

* No phrase, no operator and no character with a newline in it is longer than that newline, so what
  begins in front of a newline and has none in it begins in the text up to there
  (`prefix_of_newline`). A text is therefore cut in front of a newline as it would be if it ended
  there: `IsGap.of_head`, `not_startsGap_newline` and `Lexeme.append_newline`.
* `tokenizeFrom_newline`: the tokens of two texts with a newline between them are those of the first
  one, up to the end of input, and those of the second one.
* `tokenizeFrom_shift`: counting from another place on the first column moves all positions by the
  same distance.
* `tokenize_lines`: so the text behind a newline is scanned on its own and then moved there.
-/

namespace LessonLang

/-! ### In front of a newline -/

/-- What has no newline in it does not reach over one. -/
lemma prefix_of_newline {p x y : Text} (hp : newline ∉ p) (h : p <+: x ++ newline :: y) :
    p <+: x := by
  obtain ⟨t, ht⟩ := h
  obtain ⟨r, rfl, -⟩ | ⟨r, rfl, hr⟩ := List.append_eq_append_iff.mp ht
  · exact List.prefix_append p r
  · cases r with
    | nil => rw [List.append_nil]
    | cons b r =>
        obtain rfl : newline = b := (List.cons.inj hr).1
        exact absurd (by simp) hp

lemma newline_notMem_of_all {p : UInt8 → Bool} (hp : p newline = false) {t : Text}
    (ht : ∀ b ∈ t, p b = true) : newline ∉ t := by
  intro hmem
  exact absurd (ht newline hmem) (by simp [hp])

/-- A newline is no part of a longer character. -/
lemma encode_of_newline_mem {c : Char} (h : newline ∈ String.utf8EncodeChar c) :
    String.utf8EncodeChar c = [newline] := by
  obtain ⟨b, hb, rfl⟩ | ⟨-, hlarge⟩ := Text.encode_ascii_or c
  · rw [Text.encode_one hb] at h ⊢
    rw [List.mem_singleton.mp h]
  · exact absurd (hlarge newline h) (by decide)

lemma keywords_newline : ∀ e ∈ keywords, newline ∉ utf8 e.1 := by decide +kernel

lemma longOperators_newline : ∀ e ∈ longOperators, newline ∉ e.1 := by decide

lemma shortOperators_newline : ∀ e ∈ shortOperators, newline ∉ [e.1] := by decide

/-! ### Gaps -/

lemma isGap_newline (after : Text) : IsGap after [newline] :=
  .blank (c := '\n') (by decide) .nil

/-- Only the byte behind a gap matters to it, and a newline can always replace that: it ends the
comment in front of it as the end of the text does. -/
lemma IsGap.of_head {after after' g : Text} (h : IsGap after g)
    (hhead : ∀ b ∈ after'.head?, b = newline ∨ b ∈ after.head?) : IsGap after' g := by
  induction h with
  | nil => exact .nil
  | blank hc _ ih => exact .blank hc ih
  | @comment body rest hbody hend _ ih =>
      refine .comment hbody ?_ ih
      intro b hb
      cases rest with
      | nil =>
          obtain rfl | hb := hhead b hb
          · rfl
          · exact hend b hb
      | cons c rest => exact hend b hb

/-- A gap goes on with a gap behind it. -/
lemma IsGap.append {after g g' : Text} (h : IsGap (g' ++ after) g) (h' : IsGap after g') :
    IsGap after (g ++ g') := by
  induction h with
  | nil => exact h'
  | blank hc _ ih =>
      rw [List.append_assoc]
      exact .blank hc ih
  | @comment body rest hbody hend _ ih =>
      rw [List.cons_append, List.cons_append, List.append_assoc]
      exact .comment hbody (by rwa [List.append_assoc]) ih

/-- No gap begins in front of a newline that would not begin in front of the end of the text. -/
lemma not_startsGap_newline {x : Text} (hne : x ≠ []) (h : ¬StartsGap x) (y : Text) :
    ¬StartsGap (x ++ newline :: y) := by
  rintro (⟨c, hc, hstart⟩ | hstart)
  · by_cases hmem : newline ∈ String.utf8EncodeChar c
    · obtain ⟨b, x, rfl⟩ := List.exists_cons_of_ne_nil hne
      have hone := encode_of_newline_mem hmem
      rw [hone, List.cons_append] at hstart
      obtain ⟨rfl, -⟩ := List.cons_prefix_cons.mp hstart
      exact h (Or.inl ⟨c, hc, by rw [hone]; exact ⟨x, rfl⟩⟩)
    · exact h (Or.inl ⟨c, hc, prefix_of_newline hmem hstart⟩)
  · exact h (Or.inr (prefix_of_newline (by decide) hstart))

/-! ### Lexemes -/

lemma not_startsKeyword_newline {x : Text} (h : ¬StartsKeyword x) (y : Text) :
    ¬StartsKeyword (x ++ newline :: y) := by
  rintro ⟨e, he, hstart⟩
  exact h ⟨e, he, prefix_of_newline (keywords_newline e he) hstart⟩

lemma not_startsLongOperator_newline {x : Text} (h : ¬StartsLongOperator x) (y : Text) :
    ¬StartsLongOperator (x ++ newline :: y) := by
  rintro ⟨e, he, hstart⟩
  exact h ⟨e, he, prefix_of_newline (longOperators_newline e he) hstart⟩

lemma not_startsShortOperator_newline {x : Text} (h : ¬StartsShortOperator x) (y : Text) :
    ¬StartsShortOperator (x ++ newline :: y) := by
  rintro ⟨e, he, hstart⟩
  exact h ⟨e, he, prefix_of_newline (shortOperators_newline e he) hstart⟩

/-- A run ends at a newline that is not of its class. -/
lemma IsRun.append_newline {p : UInt8 → Bool} {x run : Text} (h : IsRun p x run)
    (hp : p newline = false) (y : Text) : IsRun p (x ++ newline :: y) run where
  starts := h.starts.trans (List.prefix_append x _)
  all := h.all
  maximal b hb := by
    by_cases hnew : b = newline
    · rw [hnew, hp]
    · have hrun : newline ∉ run ++ [b] := by
        have hall := newline_notMem_of_all hp h.all
        simpa [hall] using Ne.symm hnew
      exact h.maximal b (prefix_of_newline hrun hb)

/-- **A lexeme in front of a newline** is the one that stands there without it. -/
lemma Lexeme.append_newline {x raw : Text} {kind : Kind} (h : Lexeme x kind raw) (y : Text) :
    Lexeme (x ++ newline :: y) kind raw := by
  have hstarts : ∀ {t : Text}, t <+: x → t <+: x ++ newline :: y := fun ht =>
    ht.trans (List.prefix_append x _)
  cases h with
  | keyword hmem hstart hlongest =>
      exact .keyword hmem (hstarts hstart) fun e he hstart' =>
        hlongest e he (prefix_of_newline (keywords_newline e he) hstart')
  | longOperator hkey hmem hstart =>
      exact .longOperator (not_startsKeyword_newline hkey y) hmem (hstarts hstart)
  | shortOperator hkey hlong hmem hstart =>
      exact .shortOperator (not_startsKeyword_newline hkey y)
        (not_startsLongOperator_newline hlong y) hmem (hstarts hstart)
  | string hkey hlong hshort hbody hstart =>
      exact .string (not_startsKeyword_newline hkey y) (not_startsLongOperator_newline hlong y)
        (not_startsShortOperator_newline hshort y) hbody (hstarts hstart)
  | number hkey hlong hshort hne hrun =>
      exact .number (not_startsKeyword_newline hkey y) (not_startsLongOperator_newline hlong y)
        (not_startsShortOperator_newline hshort y) hne (hrun.append_newline (by decide) y)
  | identifier hkey hlong hshort hb hrun =>
      exact .identifier (not_startsKeyword_newline hkey y)
        (not_startsLongOperator_newline hlong y) (not_startsShortOperator_newline hshort y) hb
        (hrun.append_newline (by decide) y)

/-! ### Tokens -/

/-- Scanning begins behind a gap, whatever follows there. -/
lemma tokenizeFrom_skip (pos : Pos) {g behind : Text} (hg : IsGap behind g) :
    tokenizeFrom pos (g ++ behind) = tokenizeFrom (pos.advance g) behind := by
  obtain ⟨g', after, rfl, hg', hstart⟩ := exists_gap behind
  rw [← List.append_assoc, tokenizeFrom_append pos _ after (hg.append hg') hstart,
    tokenizeFrom_append _ g' after hg' hstart, Pos.advance_append]

/-- **Tokens in front of a newline** are those of the text up to there, without its end, and behind
it scanning begins anew. -/
lemma tokenizeFrom_newline (a : Text) {pos : Pos} {ts : List Token}
    (ha : tokenizeFrom pos a = .ok ts) :
    ∃ us e, ts = us ++ [e] ∧ e.kind = .eof ∧ (∀ t ∈ us, t.kind ≠ .eof)
      ∧ ∀ b, tokenizeFrom pos (a ++ newline :: b)
        = (tokenizeFrom ((pos.advance a).step newline) b).map (us ++ ·) := by
  induction a using scan_induction generalizing pos ts with
  | gap g hg =>
      rw [tokenizeFrom_gap pos hg] at ha
      obtain rfl := Except.ok.inj ha
      refine ⟨[], _, rfl, rfl, by simp, fun b => ?_⟩
      have hgap : IsGap (newline :: b) g := hg.of_head (by simp)
      have hskip : tokenizeFrom pos (g ++ newline :: b)
          = tokenizeFrom ((pos.advance g).step newline) b := by
        rw [tokenizeFrom_skip pos hgap]
        exact tokenizeFrom_skip (pos.advance g) (isGap_newline b)
      rw [hskip]
      cases tokenizeFrom ((pos.advance g).step newline) b <;> rfl
  | fault g b rest fault hg hstart hlex =>
      rw [tokenizeFrom_fault pos hg hstart hlex] at ha
      exact absurd ha (by simp)
  | lexeme g raw after kind hg hstart hlex ih =>
      obtain ⟨ts', hscan, rfl⟩ := (tokenizeFrom_lexeme_eq_ok_iff hg hstart hlex).mp ha
      obtain ⟨us, e, rfl, he, hus, hrest⟩ := ih hscan
      refine ⟨Token.ofLexeme kind raw (pos.advance g) :: us, e, rfl, he, ?_, fun b => ?_⟩
      · intro t ht
        obtain rfl | ht := List.mem_cons.mp ht
        · rw [Token.ofLexeme_kind]
          exact hlex.kind_cases.1
        · exact hus t ht
      · have hne : raw ++ after ≠ [] := by simp [hlex.ne_nil]
        have hgap : IsGap (raw ++ after ++ newline :: b) g := by
          refine hg.of_head fun c hc => Or.inr ?_
          rwa [List.head?_append_of_ne_nil _ hne] at hc
        have hstart' := not_startsGap_newline hne hstart b
        have hlex' := hlex.append_newline b
        rw [List.append_assoc] at hgap hstart' hlex'
        rw [List.append_assoc, List.append_assoc, tokenizeFrom_lexeme pos hgap hstart' hlex', hrest,
          Pos.advance_append, Pos.advance_append]
        cases tokenizeFrom ((((pos.advance g).advance raw).advance after).step newline) b <;> rfl

/-! ### Positions -/

/-- The place as many bytes and lines further on, in the same column. -/
def Pos.shift (bytes lines : Int) (p : Pos) : Pos := ⟨p.offset + bytes, p.line + lines, p.column⟩

/-- The token, found further on. -/
def Token.shift (bytes lines : Int) (t : Token) : Token := { t with pos := t.pos.shift bytes lines }

namespace Pos

variable (bytes lines : Int)

lemma shift_step (p : Pos) (b : UInt8) :
    (p.shift bytes lines).step b = (p.step b).shift bytes lines := by
  by_cases hb : b = newline
  · rw [hb, step_newline, step_newline, shift, shift, mk.injEq]
    exact ⟨add_right_comm _ _ _, add_right_comm _ _ _, rfl⟩
  · rw [step_of_ne hb, step_of_ne hb, shift, shift, mk.injEq]
    exact ⟨add_right_comm _ _ _, rfl, rfl⟩

lemma shift_advance (p : Pos) (t : Text) :
    (p.shift bytes lines).advance t = (p.advance t).shift bytes lines := by
  induction t generalizing p with
  | nil => rfl
  | cons b t ih =>
      change ((p.shift bytes lines).step b).advance t = ((p.step b).advance t).shift bytes lines
      rw [shift_step, ih]

end Pos

lemma Token.shift_ofLexeme (bytes lines : Int) (kind : Kind) (raw : Text) (pos : Pos) :
    (ofLexeme kind raw pos).shift bytes lines = ofLexeme kind raw (pos.shift bytes lines) := by
  cases kind <;> rfl

/-- **Scanning from a place further on**, in the same column, finds everything further on. -/
lemma tokenizeFrom_shift (bytes lines : Int) (src : Text) (pos : Pos) :
    tokenizeFrom (pos.shift bytes lines) src =
      match tokenizeFrom pos src with
      | .ok ts => .ok (ts.map (Token.shift bytes lines))
      | .error e => .error ⟨e.fault, e.pos.shift bytes lines⟩ := by
  induction src using scan_induction generalizing pos with
  | gap g hg =>
      rw [tokenizeFrom_gap _ hg, tokenizeFrom_gap _ hg, Pos.shift_advance]
      rfl
  | fault g b rest fault hg hstart hlex =>
      rw [tokenizeFrom_fault _ hg hstart hlex, tokenizeFrom_fault _ hg hstart hlex,
        Pos.shift_advance]
  | lexeme g raw after kind hg hstart hlex ih =>
      rw [tokenizeFrom_lexeme _ hg hstart hlex, tokenizeFrom_lexeme _ hg hstart hlex,
        Pos.shift_advance, Pos.shift_advance, ih]
      cases tokenizeFrom ((pos.advance g).advance raw) after with
      | error e => rfl
      | ok ts =>
          rw [← Token.shift_ofLexeme]
          rfl

/-- Behind a text and a newline stands the first column of a later line. -/
lemma Pos.start_newline (a : Text) :
    (start.advance a).step newline
      = start.shift (a.length + 1) (1 + a.count newline) := by
  obtain ⟨m, -, hpos⟩ := advance_start a []
  rw [hpos, step_newline, shift, start, mk.injEq]
  refine ⟨?_, ?_, rfl⟩
  · dsimp only
    omega
  · dsimp only
    omega

/-- **Scanning distributes over lines.** Let the text `a` have tokens; the last one, and no other,
is its end of input. Behind `a` and a newline any text `b` is scanned as it is on its own: the tokens
are those of `a` without its end and those of `b`, and if `b` has none, the fault in it is the fault
found. What belongs to `b` is moved by the bytes of `a` and the newline, by the newlines among
these, and by no column. -/
theorem tokenize_lines {a : Text} {ts : List Token} (ha : tokenize a = .ok ts) (b : Text) :
    ∃ us e, ts = us ++ [e] ∧ e.kind = .eof ∧ (∀ t ∈ us, t.kind ≠ .eof)
      ∧ tokenize (a ++ newline :: b) =
        match tokenize b with
        | .ok vs => .ok (us ++ vs.map (Token.shift (a.length + 1) (1 + a.count newline)))
        | .error f => .error ⟨f.fault, f.pos.shift (a.length + 1) (1 + a.count newline)⟩ := by
  obtain ⟨us, e, rfl, he, hus, hb⟩ := tokenizeFrom_newline a ha
  refine ⟨us, e, rfl, he, hus, ?_⟩
  rw [tokenize, hb b, Pos.start_newline, tokenizeFrom_shift, tokenize]
  cases tokenizeFrom Pos.start b <;> rfl

/-- A slash in front of the newline and one behind it are two operators and no comment, and the two
words are no keyword phrase. -/
theorem tokenize_lines_slashes :
    ∃ us, us.map Token.kind = [.identifier, .slash]
      ∧ tokenize (utf8 "jodi /" ++ newline :: utf8 "/ dada")
        = .ok (us ++ [⟨.slash, utf8 "/", 0, ⟨7, 2, 1⟩⟩, ⟨.identifier, utf8 "dada", 0, ⟨9, 2, 3⟩⟩,
            Token.eof ⟨13, 2, 7⟩]) := by
  have ha : tokenize (utf8 "jodi /")
      = .ok [⟨.identifier, utf8 "jodi", 0, ⟨0, 1, 1⟩⟩, ⟨.slash, utf8 "/", 0, ⟨5, 1, 6⟩⟩,
          Token.eof ⟨6, 1, 7⟩] := by cbv
  have hb : tokenize (utf8 "/ dada")
      = .ok [⟨.slash, utf8 "/", 0, ⟨0, 1, 1⟩⟩, ⟨.identifier, utf8 "dada", 0, ⟨2, 1, 3⟩⟩,
          Token.eof ⟨6, 1, 7⟩] := by cbv
  obtain ⟨us, e, hts, -, -, hlines⟩ := tokenize_lines ha (utf8 "/ dada")
  rw [hb] at hlines
  refine ⟨us, ?_, hlines⟩
  have hus : us = [⟨.identifier, utf8 "jodi", 0, ⟨0, 1, 1⟩⟩, ⟨.slash, utf8 "/", 0, ⟨5, 1, 6⟩⟩] := by
    have hlast := congrArg List.dropLast hts
    rw [List.dropLast_concat] at hlast
    exact hlast.symm
  rw [hus]
  rfl

end LessonLang
