import LessonLang.Proofs.Token.Tiling

/-!
Positions are true.

* `Pos.IsTrue` says that a position has the line and the column that its offset has in a text.
  `Pos.advance_isTrue`: this is so of every position that is counted from the start of the text.
* `tokenizeFrom_isTrue`: every token stands at a true position, and a fault does, at a place where
  no lexeme begins.
-/

namespace LessonLang

/-- `m` is the offset at which the line of the offset `k` begins: the one behind the last newline in
front of `k`, or zero if there is none. -/
structure IsLineStart (src : Text) (k m : Nat) : Prop where
  le : m ≤ k
  behind : m = 0 ∨ src[m - 1]? = some newline
  last : newline ∉ (src.take k).drop m

namespace Pos

/-- **A true position**: the line is one more than the number of newlines in front of the offset,
and the column is one more than the distance from the start of the line. -/
def IsTrue (src : Text) (p : Pos) : Prop :=
  ∃ k m : Nat, k ≤ src.length ∧ IsLineStart src k m
    ∧ p = ⟨k, 1 + (src.take k).count newline, k - m + 1⟩

lemma advance_append (p : Pos) (t u : Text) : p.advance (t ++ u) = (p.advance t).advance u :=
  List.foldl_append

lemma step_newline (p : Pos) : p.step newline = ⟨p.offset + 1, p.line + 1, 1⟩ := rfl

lemma step_of_ne {b : UInt8} (hb : b ≠ newline) (p : Pos) :
    p.step b = ⟨p.offset + 1, p.line, p.column + 1⟩ :=
  if_neg (by simpa [newline] using hb)

/-- **Counting byte by byte** from the start. -/
lemma advance_start (before after : Text) :
    ∃ m, IsLineStart (before ++ after) before.length m ∧ start.advance before
      = ⟨before.length, 1 + before.count newline, before.length - m + 1⟩ := by
  -- one byte more at the end: a newline begins a line, any other byte leaves the line as it is
  induction before using List.reverseRecOn generalizing after with
  | nil => exact ⟨0, ⟨le_rfl, Or.inl rfl, by simp⟩, rfl⟩
  | append_singleton before b ih =>
      obtain ⟨m, hm, hpos⟩ := ih (b :: after)
      rw [advance_append, hpos]
      by_cases hb : b = newline
      · subst hb
        refine ⟨before.length + 1, ⟨by simp, Or.inr (by simp), by simp⟩, ?_⟩
        show step _ newline = _
        rw [step_newline, List.length_append, List.length_singleton, List.count_append,
          List.count_singleton_self, mk.injEq]
        dsimp only
        omega
      · refine ⟨m, ⟨?_, ?_, ?_⟩, ?_⟩
        · simpa using hm.le.trans (Nat.le_succ _)
        · simpa using hm.behind
        · have hlast := hm.last
          rw [List.take_left] at hlast ⊢
          rw [List.drop_append_of_le_length hm.le]
          simpa [hlast] using Ne.symm hb
        · have hcount : [b].count newline = 0 :=
            List.count_eq_zero_of_not_mem (by simpa using Ne.symm hb)
          show step _ b = _
          rw [step_of_ne hb, List.length_append, List.length_singleton, List.count_append, hcount,
            mk.injEq]
          dsimp only
          omega

lemma advance_isTrue (before after : Text) : (start.advance before).IsTrue (before ++ after) := by
  obtain ⟨m, hm, hpos⟩ := advance_start before after
  exact ⟨before.length, m, by simp, hm, by simpa using hpos⟩

end Pos

/-- No lexeme begins at the place of a fault, and for the reason that it gives. -/
def LexError.Stands (src : Text) (e : LexError) : Prop :=
  ∃ (k : Nat) (b : UInt8) (rest : Text), e.pos.offset = k ∧ src.drop k = b :: rest
    ∧ lexeme b rest = .error e.fault

/-- **Scanning goes on at true positions** if it begins at one. -/
lemma tokenizeFrom_isTrue (before src : Text) :
    match tokenizeFrom (Pos.start.advance before) src with
    | .ok ts => ∀ t ∈ ts, t.pos.IsTrue (before ++ src)
    | .error e => e.pos.IsTrue (before ++ src) ∧ e.Stands (before ++ src) := by
  induction src using scan_induction generalizing before with
  | gap g hg =>
      rw [tokenizeFrom_gap _ hg]
      intro t ht
      obtain rfl := List.mem_singleton.mp ht
      have htrue := Pos.advance_isTrue (before ++ g) []
      rwa [List.append_nil, Pos.advance_append] at htrue
  | fault g b rest fault hg hstart hlex =>
      rw [tokenizeFrom_fault _ hg hstart hlex, ← Pos.advance_append]
      refine ⟨?_, (before ++ g).length, b, rest, ?_, ?_, hlex⟩
      · rw [← List.append_assoc]
        exact Pos.advance_isTrue (before ++ g) (b :: rest)
      · simp [Pos.start]
      · rw [← List.append_assoc, List.drop_left]
  | lexeme g raw after kind hg hstart hlex ih =>
      have hrest := ih (before ++ g ++ raw)
      rw [List.append_assoc (before ++ g)] at hrest
      rw [tokenizeFrom_lexeme _ hg hstart hlex, ← Pos.advance_append, ← Pos.advance_append,
        ← List.append_assoc before]
      cases hscan : tokenizeFrom (Pos.start.advance (before ++ g ++ raw)) after with
      | error e =>
          rw [hscan] at hrest
          exact hrest
      | ok ts =>
          rw [hscan] at hrest
          intro t ht
          obtain rfl | ht := List.mem_cons.mp ht
          · rw [Token.ofLexeme_pos]
            exact Pos.advance_isTrue (before ++ g) (raw ++ after)
          · exact hrest t ht

end LessonLang
