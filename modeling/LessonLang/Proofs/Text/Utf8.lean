import Mathlib.Tactic
import LessonLang.Text.Utf8

/-!
Reading characters.

* `Text.Reads` lists the pieces that can be read off the front of a text. What `Text.first` reads is
  one of them (`Text.reads_first`), and a character if one is encoded there
  (`Text.first_eq_of_reads`, `Text.reads_encode`).
* `Text.Reads.take_eq`: the bytes that a character is read from are those that encode it.
* `Text.Reads.tails`: the bytes behind the first one of a piece are continuation bytes, so that none
  of them is an ASCII character.
-/

namespace LessonLang

namespace Text

/-! ### The code point of some bytes -/

lemma toNat_ofNat {n : Nat} (hn : n.isValidChar) : (Char.ofNat n).val.toNat = n := by
  rw [Char.ofNat, dif_pos hn]
  rfl

lemma ofNat_eq {n : Nat} {b : UInt8} (h : n = b.toNat) : UInt8.ofNat n = b := by
  rw [h, UInt8.ofNat_toNat]

lemma addTail_eq (n : Nat) (b : UInt8) : addTail n b = n * 64 + (b.toNat - 128) := rfl

lemma isTail_iff {b : UInt8} : isTail b = true ↔ 128 ≤ b.toNat ∧ b.toNat ≤ 191 := by
  simp [isTail, UInt8.le_iff_toNat_le]

lemma secondMin_toNat (b : UInt8) :
    (secondMin b).toNat = if b.toNat = 224 then 160 else if b.toNat = 240 then 144 else 128 := by
  simp only [secondMin, beq_iff_eq, ← UInt8.toNat_inj]
  split_ifs <;> simp_all

lemma secondMax_toNat (b : UInt8) :
    (secondMax b).toNat = if b.toNat = 237 then 159 else if b.toNat = 244 then 143 else 191 := by
  simp only [secondMax, beq_iff_eq, ← UInt8.toNat_inj]
  split_ifs <;> simp_all

lemma encode_one {b : UInt8} (hb : b.toNat < 128) :
    String.utf8EncodeChar (Char.ofNat b.toNat) = [b] := by
  have hvalid : b.toNat.isValidChar := Or.inl (by omega)
  rw [String.utf8EncodeChar, toNat_ofNat hvalid, if_pos (by omega), ofNat_eq rfl]

lemma encode_two {b b1 : UInt8} {n : Nat} (hn : addTail (b.toNat - 192) b1 = n)
    (hb : 194 ≤ b.toNat ∧ b.toNat ≤ 223) (h1 : isTail b1 = true) :
    String.utf8EncodeChar (Char.ofNat n) = [b, b1] := by
  rw [isTail_iff] at h1
  simp only [addTail_eq] at hn
  have hvalid : n.isValidChar := by
    rw [Nat.isValidChar]
    omega
  have e0 : UInt8.ofNat (n / 64 % 32 + 192) = b := ofNat_eq (by omega)
  have e1 : UInt8.ofNat (n % 64 + 128) = b1 := ofNat_eq (by omega)
  rw [String.utf8EncodeChar, toNat_ofNat hvalid, if_neg (by omega), if_pos (by omega), e0, e1]

lemma encode_three {b b1 b2 : UInt8} {n : Nat}
    (hn : addTail (addTail (b.toNat - 224) b1) b2 = n) (hb : 224 ≤ b.toNat ∧ b.toNat ≤ 239)
    (hmin : (secondMin b).toNat ≤ b1.toNat) (hmax : b1.toNat ≤ (secondMax b).toNat)
    (h2 : isTail b2 = true) :
    String.utf8EncodeChar (Char.ofNat n) = [b, b1, b2] := by
  rw [isTail_iff] at h2
  rw [secondMin_toNat] at hmin
  rw [secondMax_toNat] at hmax
  simp only [addTail_eq] at hn
  have h1 : 128 ≤ b1.toNat ∧ b1.toNat ≤ 191 := by split_ifs at hmin hmax <;> omega
  have hlow : 2048 ≤ n := by split_ifs at hmin <;> omega
  have hvalid : n.isValidChar := by
    rw [Nat.isValidChar]
    split_ifs at hmax <;> omega
  have e0 : UInt8.ofNat (n / 4096 % 16 + 224) = b := ofNat_eq (by omega)
  have e1 : UInt8.ofNat (n / 64 % 64 + 128) = b1 := ofNat_eq (by omega)
  have e2 : UInt8.ofNat (n % 64 + 128) = b2 := ofNat_eq (by omega)
  rw [String.utf8EncodeChar, toNat_ofNat hvalid, if_neg (by omega), if_neg (by omega),
    if_pos (by omega), e0, e1, e2]

lemma encode_four {b b1 b2 b3 : UInt8} {n : Nat}
    (hn : addTail (addTail (addTail (b.toNat - 240) b1) b2) b3 = n)
    (hb : 240 ≤ b.toNat ∧ b.toNat ≤ 244) (hmin : (secondMin b).toNat ≤ b1.toNat)
    (hmax : b1.toNat ≤ (secondMax b).toNat) (h2 : isTail b2 = true) (h3 : isTail b3 = true) :
    String.utf8EncodeChar (Char.ofNat n) = [b, b1, b2, b3] := by
  rw [isTail_iff] at h2 h3
  rw [secondMin_toNat] at hmin
  rw [secondMax_toNat] at hmax
  simp only [addTail_eq] at hn
  have h1 : 128 ≤ b1.toNat ∧ b1.toNat ≤ 191 := by split_ifs at hmin hmax <;> omega
  have hlow : 65536 ≤ n := by split_ifs at hmin <;> omega
  have hvalid : n.isValidChar := by
    rw [Nat.isValidChar]
    split_ifs at hmax <;> omega
  have e0 : UInt8.ofNat (n / 262144 % 8 + 240) = b := ofNat_eq (by omega)
  have e1 : UInt8.ofNat (n / 4096 % 64 + 128) = b1 := ofNat_eq (by omega)
  have e2 : UInt8.ofNat (n / 64 % 64 + 128) = b2 := ofNat_eq (by omega)
  have e3 : UInt8.ofNat (n % 64 + 128) = b3 := ofNat_eq (by omega)
  rw [String.utf8EncodeChar, toNat_ofNat hvalid, if_neg (by omega), if_neg (by omega),
    if_neg (by omega), e0, e1, e2, e3]

/-! ### Reading -/

/-- **The pieces** that can be read off the front of a text, with their widths. -/
inductive Reads : UInt8 → Text → Piece → Nat → Prop where
  | stray (b : UInt8) (rest : Text) : Reads b rest (.stray b) 1
  | one {b : UInt8} {n : Nat} (rest : Text) (hn : b.toNat = n) (hb : n < 128) :
      Reads b rest (.char (Char.ofNat n)) 1
  | two {b b1 : UInt8} {n : Nat} (rest : Text) (hn : addTail (b.toNat - 192) b1 = n)
      (hb : 194 ≤ b.toNat ∧ b.toNat ≤ 223) (h1 : isTail b1 = true) :
      Reads b (b1 :: rest) (.char (Char.ofNat n)) 2
  | three {b b1 b2 : UInt8} {n : Nat} (rest : Text)
      (hn : addTail (addTail (b.toNat - 224) b1) b2 = n) (hb : 224 ≤ b.toNat ∧ b.toNat ≤ 239)
      (hmin : (secondMin b).toNat ≤ b1.toNat) (hmax : b1.toNat ≤ (secondMax b).toNat)
      (h2 : isTail b2 = true) : Reads b (b1 :: b2 :: rest) (.char (Char.ofNat n)) 3
  | four {b b1 b2 b3 : UInt8} {n : Nat} (rest : Text)
      (hn : addTail (addTail (addTail (b.toNat - 240) b1) b2) b3 = n)
      (hb : 240 ≤ b.toNat ∧ b.toNat ≤ 244) (hmin : (secondMin b).toNat ≤ b1.toNat)
      (hmax : b1.toNat ≤ (secondMax b).toNat) (h2 : isTail b2 = true) (h3 : isTail b3 = true) :
      Reads b (b1 :: b2 :: b3 :: rest) (.char (Char.ofNat n)) 4

lemma reads_first (b : UInt8) (rest : Text) :
    Reads b rest (first b rest).1 (first b rest).2 := by
  rw [first.eq_def]
  split_ifs with h1 h2 h3 h4
  · exact .one rest rfl (by simpa [UInt8.lt_iff_toNat_lt] using h1)
  · split
    · split_ifs with ht
      · exact .two _ rfl (by simpa [UInt8.le_iff_toNat_le] using h2) ht
      · exact .stray _ _
    · exact .stray _ _
  · split
    · split_ifs with ht
      · simp only [Bool.and_eq_true, decide_eq_true_eq, UInt8.le_iff_toNat_le] at ht
        exact .three _ rfl (by simpa [UInt8.le_iff_toNat_le] using h3) ht.1.1 ht.1.2 ht.2
      · exact .stray _ _
    · exact .stray _ _
  · split
    · split_ifs with ht
      · simp only [Bool.and_eq_true, decide_eq_true_eq, UInt8.le_iff_toNat_le] at ht
        exact .four _ rfl (by simpa [UInt8.le_iff_toNat_le] using h4) ht.1.1.1 ht.1.1.2 ht.1.2 ht.2
      · exact .stray _ _
    · exact .stray _ _
  · exact .stray _ _

/-- Reading finds every character that is encoded at the front of a text. -/
lemma first_eq_of_reads {b : UInt8} {rest : Text} {c : Char} {n : Nat}
    (h : Reads b rest (.char c) n) : first b rest = (.char c, n) := by
  cases h with
  | one _ hn hb =>
      rw [first.eq_def, if_pos (by simpa [UInt8.lt_iff_toNat_lt, hn] using hb), hn]
  | two _ hn hb h1 =>
      rw [first.eq_def, if_neg (by simp [UInt8.lt_iff_toNat_lt]; omega),
        if_pos (by simpa [UInt8.le_iff_toNat_le] using hb)]
      dsimp only
      rw [if_pos h1, ← hn]
  | three _ hn hb hmin hmax h2 =>
      rw [first.eq_def, if_neg (by simp [UInt8.lt_iff_toNat_lt]; omega),
        if_neg (by simp [UInt8.le_iff_toNat_le]; omega),
        if_pos (by simpa [UInt8.le_iff_toNat_le] using hb)]
      dsimp only
      rw [if_pos (by simp [UInt8.le_iff_toNat_le, hmin, hmax, h2]), ← hn]
  | four _ hn hb hmin hmax h2 h3 =>
      rw [first.eq_def, if_neg (by simp [UInt8.lt_iff_toNat_lt]; omega),
        if_neg (by simp [UInt8.le_iff_toNat_le]; omega),
        if_neg (by simp [UInt8.le_iff_toNat_le]; omega),
        if_pos (by simpa [UInt8.le_iff_toNat_le] using hb)]
      dsimp only
      rw [if_pos (by simp [UInt8.le_iff_toNat_le, hmin, hmax, h2, h3]), ← hn]

/-- A character is read from its own bytes. -/
lemma Reads.take_eq {b : UInt8} {rest : Text} {c : Char} {n : Nat} (h : Reads b rest (.char c) n) :
    (b :: rest).take n = String.utf8EncodeChar c := by
  cases h with
  | one _ hn hb =>
      subst hn
      exact (encode_one hb).symm
  | two _ hn hb h1 => exact (encode_two hn hb h1).symm
  | three _ hn hb hmin hmax h2 => exact (encode_three hn hb hmin hmax h2).symm
  | four _ hn hb hmin hmax h2 h3 => exact (encode_four hn hb hmin hmax h2 h3).symm

/-- **Behind its first byte** a piece has continuation bytes only. -/
lemma Reads.tails {b : UInt8} {rest : Text} {p : Piece} {n : Nat} (h : Reads b rest p n) :
    ∃ tails after, rest = tails ++ after ∧ n = tails.length + 1 ∧ ∀ x ∈ tails, isTail x = true := by
  have hsecond : ∀ {b b1 : UInt8}, (secondMin b).toNat ≤ b1.toNat →
      b1.toNat ≤ (secondMax b).toNat → isTail b1 = true := by
    intro b b1 hmin hmax
    rw [secondMin_toNat] at hmin
    rw [secondMax_toNat] at hmax
    rw [isTail_iff]
    split_ifs at hmin hmax <;> omega
  cases h with
  | stray => exact ⟨[], rest, rfl, rfl, by simp⟩
  | one => exact ⟨[], rest, rfl, rfl, by simp⟩
  | @two b1 _ after _ _ h1 => exact ⟨[b1], after, rfl, rfl, by simp [h1]⟩
  | @three b1 b2 _ after _ _ hmin hmax h2 =>
      exact ⟨[b1, b2], after, rfl, rfl, by simp [hsecond hmin hmax, h2]⟩
  | @four b1 b2 b3 _ after _ _ hmin hmax h2 h3 =>
      exact ⟨[b1, b2, b3], after, rfl, rfl, by simp [hsecond hmin hmax, h2, h3]⟩

lemma toNat_byte {n : Nat} (h : n < 256) : (UInt8.ofNat n).toNat = n :=
  UInt8.toNat_ofNat_of_lt' h

/-- The bytes of a character are read as that character. -/
lemma reads_encode (c : Char) (rest : Text) :
    ∃ b tail, String.utf8EncodeChar c ++ rest = b :: tail
      ∧ Reads b tail (.char c) (String.utf8EncodeChar c).length := by
  generalize hn : c.val.toNat = n
  have hc : c = Char.ofNat n := by rw [← hn]; exact (Char.ofNat_toNat c).symm
  have hvalid : n < 55296 ∨ 57343 < n ∧ n < 1114112 := by rw [← hn]; exact c.valid
  rw [String.utf8EncodeChar, hn, hc]
  split_ifs with h1 h2 h3
  · refine ⟨_, rest, rfl, .one rest (toNat_byte (by omega)) (by omega)⟩
  · have e0 := toNat_byte (by omega : n / 64 % 32 + 192 < 256)
    have e1 := toNat_byte (by omega : n % 64 + 128 < 256)
    refine ⟨_, _, rfl, .two rest ?_ ?_ ?_⟩
    · rw [addTail_eq, e0, e1]
      omega
    · omega
    · rw [isTail_iff]
      omega
  · have e0 := toNat_byte (by omega : n / 4096 % 16 + 224 < 256)
    have e1 := toNat_byte (by omega : n / 64 % 64 + 128 < 256)
    have e2 := toNat_byte (by omega : n % 64 + 128 < 256)
    refine ⟨_, _, rfl, .three rest ?_ ?_ ?_ ?_ ?_⟩
    · rw [addTail_eq, addTail_eq, e0, e1, e2]
      omega
    · omega
    · rw [secondMin_toNat]
      split_ifs <;> omega
    · rw [secondMax_toNat]
      split_ifs <;> omega
    · rw [isTail_iff]
      omega
  · have e0 := toNat_byte (by omega : n / 262144 % 8 + 240 < 256)
    have e1 := toNat_byte (by omega : n / 4096 % 64 + 128 < 256)
    have e2 := toNat_byte (by omega : n / 64 % 64 + 128 < 256)
    have e3 := toNat_byte (by omega : n % 64 + 128 < 256)
    refine ⟨_, _, rfl, .four rest ?_ ?_ ?_ ?_ ?_ ?_⟩
    · rw [addTail_eq, addTail_eq, addTail_eq, e0, e1, e2, e3]
      omega
    · omega
    · rw [secondMin_toNat]
      split_ifs <;> omega
    · rw [secondMax_toNat]
      split_ifs <;> omega
    · rw [isTail_iff]
      omega
    · rw [isTail_iff]
      omega

/-- A character is one ASCII byte, or all of its bytes are above those. -/
lemma encode_ascii_or (c : Char) :
    (∃ b : UInt8, b.toNat < 128 ∧ c = Char.ofNat b.toNat)
      ∨ 128 ≤ c.toNat ∧ ∀ x ∈ String.utf8EncodeChar c, 128 ≤ x.toNat := by
  generalize hn : c.toNat = n
  have hc : c = Char.ofNat n := by rw [← hn]; exact (Char.ofNat_toNat c).symm
  have hvalid : n < 55296 ∨ 57343 < n ∧ n < 1114112 := by rw [← hn]; exact c.valid
  by_cases hsmall : n < 128
  · refine Or.inl ⟨UInt8.ofNat n, ?_, ?_⟩
    · rwa [toNat_byte (by omega)]
    · rw [toNat_byte (by omega), hc]
  · refine Or.inr ⟨by omega, ?_⟩
    rw [String.utf8EncodeChar, show c.val.toNat = n from hn, if_neg (by omega)]
    split_ifs
    all_goals
      simp only [List.mem_cons, List.not_mem_nil, or_false, forall_eq_or_imp, forall_eq]
      repeat' constructor
      all_goals
        rw [toNat_byte (by omega)]
        omega

end Text

end LessonLang
