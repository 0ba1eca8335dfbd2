import LessonLang.Proofs.Text.Utf8
import LessonLang.Token.Scan

/-!
Gaps between lexemes.

* `IsGap` says what a gap is made of: white space, and comments that go on to the end of their line.
* `IsGap.gapLength_eq`: scanning skips a gap behind which neither white space nor a comment begins.
  Every text begins with exactly one such gap (`exists_gap`, `gap_unique`).
-/

namespace LessonLang

/-- The byte that ends a line. -/
def newline : UInt8 := 0x0a

/-- **A gap**, with the text `after` behind it: white space and comments. A comment begins with two
slashes and goes on to the end of the line or of the text. -/
inductive IsGap (after : Text) : Text → Prop where
  | nil : IsGap after []
  | blank {c : Char} {rest : Text} (hc : isBlank c.toNat = true) (h : IsGap after rest) :
      IsGap after (String.utf8EncodeChar c ++ rest)
  | comment {body rest : Text} (hbody : newline ∉ body)
      (hend : ∀ b ∈ (rest ++ after).head?, b = newline) (h : IsGap after rest) :
      IsGap after (0x2f :: 0x2f :: (body ++ rest))

/-- White space or a comment begins here. -/
def StartsGap (t : Text) : Prop :=
  (∃ c : Char, isBlank c.toNat = true ∧ String.utf8EncodeChar c <+: t) ∨ [0x2f, 0x2f] <+: t

lemma not_startsGap_nil : ¬StartsGap [] := by
  rintro (⟨c, -, h⟩ | h)
  · exact String.utf8EncodeChar_ne_nil (List.prefix_nil.mp h)
  · exact absurd (List.prefix_nil.mp h) (by simp)

/-! ### How gaps are skipped -/

/-- The bytes of a character that is read last are skipped first. -/
lemma gapLength_blank (n : Nat) (t : Text) (hn : n ≤ t.length) :
    gapLength (.blank n) t = n + gapLength (.blank 0) (t.drop n) := by
  induction n generalizing t with
  | zero => simp
  | succ n ih =>
      cases t with
      | nil => exact absurd hn (by simp)
      | cons b rest =>
          rw [gapLength, ih rest (by simpa using hn), List.drop_succ_cons]
          omega

lemma piece_newline (rest : Text) : Text.first newline rest = (.char '\n', 1) := rfl

lemma gapLength_newline (rest : Text) :
    gapLength (.blank 0) (newline :: rest) = gapLength (.blank 0) rest + 1 := by
  rw [gapLength, piece_newline]
  rfl

/-- A comment is skipped up to the end of its line. -/
lemma gapLength_comment (t : Text) :
    gapLength .comment t = (t.takeWhile (· != newline)).length
      + gapLength (.blank 0) (t.dropWhile (· != newline)) := by
  induction t with
  | nil => rfl
  | cons b rest ih =>
      by_cases hb : b = newline
      · subst hb
        rw [gapLength, List.takeWhile_cons_of_neg (by simp), List.dropWhile_cons_of_neg (by simp),
          gapLength_newline, List.length_nil, Nat.zero_add]
        rfl
      · rw [gapLength, List.takeWhile_cons_of_pos (by simpa using hb),
          List.dropWhile_cons_of_pos (by simpa using hb), if_neg (by simpa [newline] using hb), ih,
          List.length_cons]
        omega

/-- A piece of white space is a character. -/
lemma char_of_isBlank {p : Piece} (h : p.isBlank = true) :
    ∃ c, p = .char c ∧ isBlank c.toNat = true := by
  cases p with
  | char c => exact ⟨c, rfl, h⟩
  | stray b => exact absurd h (by rw [Piece.isBlank, Piece.codePoint]; decide)

/-- White space is skipped, if it is at the front. -/
lemma gapLength_char {c : Char} (hc : isBlank c.toNat = true) (rest : Text) :
    gapLength (.blank 0) (String.utf8EncodeChar c ++ rest)
      = (String.utf8EncodeChar c).length + gapLength (.blank 0) rest := by
  obtain ⟨b, tail, heq, hreads⟩ := Text.reads_encode c rest
  obtain ⟨tails, after, htail, hlen, -⟩ := hreads.tails
  have hblank : (Text.first b tail).1.isBlank = true := by
    rw [Text.first_eq_of_reads hreads]
    exact hc
  have hafter : tail.drop tails.length = rest := by
    have := congrArg (List.drop (String.utf8EncodeChar c).length) heq
    rwa [List.drop_left, hlen, List.drop_succ_cons, eq_comm] at this
  rw [heq, gapLength]
  dsimp only
  rw [if_pos hblank, Text.first_eq_of_reads hreads, hlen, Nat.add_sub_cancel,
    gapLength_blank _ _ (by simp [htail]), hafter]
  omega

/-- A comment is skipped, if it is at the front. -/
lemma gapLength_slashes {body rest : Text} (hbody : newline ∉ body)
    (hrest : ∀ b ∈ rest.head?, b = newline) :
    gapLength (.blank 0) (0x2f :: 0x2f :: (body ++ rest))
      = body.length + 2 + gapLength (.blank 0) rest := by
  have hall : ∀ b ∈ 0x2f :: body, (b != newline) = true := by
    intro b hb
    obtain rfl | hb := List.mem_cons.mp hb
    · decide
    · have hne : b ≠ newline := fun heq => hbody (heq ▸ hb)
      simpa using hne
  have htake : (0x2f :: (body ++ rest)).takeWhile (· != newline) = 0x2f :: body := by
    rw [← List.cons_append, List.takeWhile_append_of_pos hall]
    cases rest with
    | nil => simp
    | cons b rest =>
        obtain rfl := hrest b rfl
        simp
  have hdrop : (0x2f :: (body ++ rest)).dropWhile (· != newline) = rest := by
    rw [← List.cons_append, List.dropWhile_append_of_pos hall]
    cases rest with
    | nil => rfl
    | cons b rest =>
        obtain rfl := hrest b rfl
        simp
  have hslash : Text.first 0x2f (0x2f :: (body ++ rest)) = (.char '/', 1) := rfl
  rw [gapLength, hslash]
  dsimp only
  rw [if_neg (by decide), if_pos (by simp), gapLength_comment, htake, hdrop, List.length_cons]
  omega

lemma gapLength_of_not_starts {t : Text} (h : ¬StartsGap t) : gapLength (.blank 0) t = 0 := by
  cases t with
  | nil => rfl
  | cons b rest =>
      rw [gapLength]
      dsimp only
      have hblank : ¬(Text.first b rest).1.isBlank = true := by
        intro hblank
        obtain ⟨c, hpiece, hc⟩ := char_of_isBlank hblank
        have hreads := Text.reads_first b rest
        rw [hpiece] at hreads
        refine h (Or.inl ⟨c, hc, ?_⟩)
        rw [← hreads.take_eq]
        exact List.take_prefix _ _
      have hslashes : ¬(b == 0x2f && rest.head? == some 0x2f) = true := by
        intro hslashes
        rw [Bool.and_eq_true, beq_iff_eq, beq_iff_eq] at hslashes
        obtain ⟨rfl, hhead⟩ := hslashes
        obtain ⟨more, rfl⟩ := List.head?_eq_some_iff.mp hhead
        exact h (Or.inr ⟨more, rfl⟩)
      rw [if_neg hblank, if_neg hslashes]

/-- **A gap is skipped** whole, if nothing behind it belongs to a gap. -/
lemma IsGap.gapLength_eq {after g : Text} (h : IsGap after g) (hafter : ¬StartsGap after) :
    gapLength (.blank 0) (g ++ after) = g.length := by
  induction h with
  | nil => exact gapLength_of_not_starts hafter
  | blank hc _ ih =>
      rw [List.append_assoc, gapLength_char hc, ih, List.length_append]
  | comment hbody hend _ ih =>
      rw [List.cons_append, List.cons_append, List.append_assoc, gapLength_slashes hbody hend, ih]
      simp only [List.length_cons, List.length_append]
      omega

/-- **What begins like a gap** begins with a piece of one. -/
lemma exists_of_startsGap {t : Text} (h : StartsGap t) :
    ∃ piece rest, t = piece ++ rest ∧ piece ≠ [] ∧ ∀ g after, rest = g ++ after → IsGap after g →
      IsGap after (piece ++ g) := by
  obtain ⟨c, hc, rest, rfl⟩ | ⟨rest, rfl⟩ := h
  · exact ⟨_, rest, rfl, String.utf8EncodeChar_ne_nil, fun g after _ hg => .blank hc hg⟩
  · refine ⟨0x2f :: 0x2f :: rest.takeWhile (· != newline), rest.dropWhile (· != newline), ?_,
      by simp, ?_⟩
    · simp
    · intro g after heq hg
      refine .comment ?_ ?_ hg
      · intro hmem
        have := List.all_eq_true.mp List.all_takeWhile newline hmem
        exact absurd this (by simp)
      · intro b hb
        rw [← heq] at hb
        have := List.head?_dropWhile_not (· != newline) rest
        rw [hb] at this
        simpa using this

/-- Every text begins with a gap behind which no more of it follows. -/
lemma exists_gap (t : Text) : ∃ g after, t = g ++ after ∧ IsGap after g ∧ ¬StartsGap after := by
  by_cases h : StartsGap t
  · obtain ⟨piece, rest, rfl, hne, hgap⟩ := exists_of_startsGap h
    have hlen : rest.length < (piece ++ rest).length := by
      rw [List.length_append]
      have := List.length_pos_iff.mpr hne
      omega
    obtain ⟨g, after, heq, hg, hafter⟩ := exists_gap rest
    exact ⟨piece ++ g, after, by rw [heq, List.append_assoc], hgap g after heq hg, hafter⟩
  · exact ⟨[], t, rfl, .nil, h⟩
termination_by t.length

/-- A text has one such gap only. -/
lemma gap_unique {g g' after after' : Text} (hg : IsGap after g) (hafter : ¬StartsGap after)
    (hg' : IsGap after' g') (hafter' : ¬StartsGap after') (heq : g ++ after = g' ++ after') :
    g = g' ∧ after = after' := by
  have hlen : g.length = g'.length := by
    rw [← hg.gapLength_eq hafter, ← hg'.gapLength_eq hafter', heq]
  exact List.append_inj heq hlen

end LessonLang
