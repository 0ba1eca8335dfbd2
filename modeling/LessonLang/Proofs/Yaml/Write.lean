import LessonLang.Proofs.Text.Trim
import LessonLang.Timestamp
import LessonLang.Yaml.Write

/-!
Texts on one line.

* A text without a line feed is written as a scalar on one line, whichever style is chosen
  (`Yaml.exists_line_writeField`).
* A timestamp is such a text, and has no white space (`Timestamp.trim_text`).
-/

namespace LessonLang

namespace Yaml

/-- The byte that ends a line. -/
def lineFeed : UInt8 := 0x0a

/-! ### Styles -/

lemma lineFeed_notMem_encode {c : Char} (hc : c ≠ '\n') : lineFeed ∉ String.utf8EncodeChar c := by
  intro hmem
  obtain ⟨b, hb, rfl⟩ | ⟨-, hlarge⟩ := Text.encode_ascii_or c
  · rw [Text.encode_one hb] at hmem
    obtain rfl := List.mem_singleton.mp hmem
    exact hc (by decide)
  · exact absurd (hlarge lineFeed hmem) (by decide)

lemma lineFeed_notMem_hexDigits (width n : Nat) :
    lineFeed ∉ (hexDigits width n).map upperHexDigit := by
  have hdigit : ∀ d < 16, upperHexDigit (hexDigit d) ≠ lineFeed := by decide
  induction width generalizing n with
  | zero => simp [hexDigits]
  | succ width ih =>
      rw [hexDigits, List.map_append, List.mem_append, not_or]
      refine ⟨ih (n / 16), ?_⟩
      simpa using (hdigit (n % 16) (Nat.mod_lt n (by decide))).symm

lemma lineFeed_ne_escapeLetter {c letter : Char} (h : escapeLetter? c = some letter) :
    lineFeed ≠ Text.byte letter := by
  have hplain : (['0', 'a', 'b', 't', 'n', 'v', 'f', 'r', 'e', '"', '\\', 'N', '_', 'L', 'P'].all
      fun x => lineFeed != Text.byte x) = true := by
    decide
  rw [escapeLetter?] at h
  obtain ⟨before, after, htable, -⟩ := List.lookup_eq_some_iff.mp h
  have hmem := List.mem_map_of_mem (f := Prod.snd) (htable ▸ List.mem_append_right before
    (List.mem_cons_self (a := (c, letter)) (l := after)))
  exact bne_iff_ne.mp (List.all_eq_true.mp hplain letter hmem)

lemma lineFeed_notMem_doubleQuotedChar {c : Char} (hc : c ≠ '\n') (all : Bool) :
    lineFeed ∉ doubleQuotedChar all c := by
  have hmark : ∀ width : Nat, ∀ mark : Text, lineFeed ∉ mark →
      lineFeed ∉ mark ++ (hexDigits width c.toNat).map upperHexDigit := fun width mark hm hmem =>
    (List.mem_append.mp hmem).elim hm (lineFeed_notMem_hexDigits width c.toNat)
  rw [doubleQuotedChar]
  split_ifs
  · exact lineFeed_notMem_encode hc
  cases hletter : escapeLetter? c with
  | some letter =>
      have hne := lineFeed_ne_escapeLetter hletter
      have hbackslash : lineFeed ≠ 0x5c := by decide
      simp [hbackslash, hne]
  | none =>
      dsimp only
      split_ifs
      · exact hmark 2 _ (by decide)
      · exact hmark 4 _ (by decide)
      · exact hmark 8 _ (by decide)

lemma lineFeed_notMem_singleQuoted {cs : List Char} (h : '\n' ∉ cs) (indent : Nat) (fresh : Bool) :
    lineFeed ∉ singleQuoted indent fresh cs := by
  induction cs generalizing fresh with
  | nil => simp [singleQuoted]
  | cons c rest ih =>
      obtain ⟨hc, hrest⟩ := not_or.mp (mt List.mem_cons.mpr h)
      have hspaces : lineFeed ∉ spaces indent := fun hmem =>
        absurd (List.eq_of_mem_replicate hmem) (by decide)
      have hencode := lineFeed_notMem_encode (Ne.symm hc)
      have hquote : lineFeed ≠ 0x27 := by decide
      rw [singleQuoted]
      split_ifs <;> simp [hencode, hspaces, ih hrest, hquote]

/-- Only a literal block has line feeds that the text has not. -/
lemma lineFeed_notMem_write {cs : List Char} (h : '\n' ∉ cs) {s : Style} (hs : s ≠ .literal)
    (indent : Nat) : lineFeed ∉ s.write indent cs := by
  have hne : ∀ c ∈ cs, c ≠ '\n' := fun c hc heq => h (heq ▸ hc)
  cases s with
  | literal => exact absurd rfl hs
  | plain =>
      rw [Style.write, Text.ofChars, List.mem_flatMap]
      rintro ⟨c, hc, hmem⟩
      exact lineFeed_notMem_encode (hne c hc) hmem
  | single =>
      have hquoted := lineFeed_notMem_singleQuoted h indent false
      have hquote : lineFeed ≠ 0x27 := by decide
      simp [Style.write, hquoted, hquote]
  | double =>
      have hquoted : lineFeed ∉ doubleQuoted cs := by
        rw [doubleQuoted, List.mem_flatMap]
        rintro ⟨c, hc, hmem⟩
        exact lineFeed_notMem_doubleQuotedChar (hne c hc) _ hmem
      have hquote : lineFeed ≠ 0x22 := by decide
      simp [Style.write, hquoted, hquote]

/-! ### Fields -/

/-- **A text on one line** is written on the line of its key. -/
lemma exists_line_writeField {t : Text} {cs : List Char} (ht : t.chars? = some cs) (h : '\n' ∉ cs)
    (indent : Nat) (key : String) :
    ∃ value, writeField indent key t = utf8 key ++ utf8 ": " ++ value ++ [lineFeed]
      ∧ lineFeed ∉ value := by
  have hstyle : Style.of (readsAsText t) cs ≠ .literal := by
    rw [Style.of, if_neg (by simpa using h)]
    split_ifs <;> simp
  have hvalue : lineFeed ∉ writeScalar indent t := by
    rw [writeScalar, ht]
    exact lineFeed_notMem_write h hstyle indent
  refine ⟨writeScalar indent t, ?_, hvalue⟩
  have hend : (utf8 key ++ utf8 ": " ++ writeScalar indent t).getLast? ≠ some lineFeed := by
    cases hscalar : writeScalar indent t with
    | nil =>
        rw [List.append_nil, show utf8 ": " = [0x3a] ++ [0x20] from by decide, ← List.append_assoc,
          List.getLast?_concat]
        decide
    | cons b rest =>
        rw [List.getLast?_append_of_ne_nil _ (by simp), ← hscalar]
        exact fun hlast => hvalue (List.mem_of_getLast? hlast)
  rw [writeField]
  exact if_neg (by simpa [lineFeed] using hend)

/-- A field ends its line. -/
lemma getLast?_writeField (indent : Nat) (key : String) (t : Text) :
    (writeField indent key t).getLast? = some lineFeed := by
  rw [writeField]
  split_ifs with h
  · exact eq_of_beq h
  · exact List.getLast?_concat ..

end Yaml

/-! ### Timestamps -/

namespace Timestamp

/-- What timestamps are made of: digits, the marks between them and the letters T and Z. -/
def isMark (b : UInt8) : Bool := isDigit b || [0x2d, 0x3a, 0x54, 0x5a].contains b

lemma lt_of_isMark {b : UInt8} (h : isMark b = true) :
    b.toNat < 128 ∧ isBlank b.toNat = false ∧ Char.ofNat b.toNat ≠ '\n' := by
  have hall : ∀ n < 256, isMark (UInt8.ofNat n) = true →
      n < 128 ∧ isBlank n = false ∧ Char.ofNat n ≠ '\n' := by
    decide +kernel
  exact hall b.toNat b.toNat_lt (by simpa using h)

lemma isMark_padded (width n : Nat) : ∀ b ∈ padded width n, isMark b = true := by
  have hdigit : ∀ n < 58, 48 ≤ n → isMark (Text.byte (Char.ofNat n)) = true := by decide +kernel
  intro b hb
  rw [padded] at hb
  obtain hb | hb := List.mem_append.mp hb
  · rw [List.eq_of_mem_replicate hb]
    decide
  · obtain ⟨c, hc, rfl⟩ := List.mem_map.mp hb
    obtain ⟨hlow, hhigh⟩ : 48 ≤ c.toNat ∧ c.toNat ≤ 57 :=
      Char.isDigit_iff_toNat.mp (Nat.isDigit_of_mem_toDigits (by decide) (by decide) hc)
    have hmark := hdigit c.toNat (by omega) hlow
    rwa [Char.ofNat_toNat] at hmark

lemma isMark_text (seconds : Nat) : ∀ b ∈ text seconds, isMark b = true := by
  rw [text]
  simp only [List.forall_mem_append, List.forall_mem_cons]
  exact ⟨⟨⟨⟨⟨⟨isMark_padded 4 _, by decide, isMark_padded 2 _⟩,
    by decide, isMark_padded 2 _⟩, by decide, isMark_padded 2 _⟩,
    by decide, isMark_padded 2 _⟩, by decide, isMark_padded 2 _⟩, by decide, by simp⟩

/-- A text as a clock shows it. -/
def IsShown (t : Text) : Prop := ∃ seconds, t = text seconds

variable {t : Text}

lemma IsShown.isMark (h : IsShown t) : ∀ b ∈ t, isMark b = true := by
  obtain ⟨seconds, rfl⟩ := h
  exact isMark_text seconds

lemma IsShown.pieces (h : IsShown t) : t.pieces = t.map fun b => .char (Char.ofNat b.toNat) :=
  Text.pieces_of_lt fun b hb => (lt_of_isMark (h.isMark b hb)).1

/-- **A timestamp has no white space.** -/
lemma IsShown.trim (h : IsShown t) : t.trim = t := by
  refine Text.trim_eq_self fun p hp => ?_
  rw [h.pieces] at hp
  obtain ⟨b, hb, rfl⟩ := List.mem_map.mp hp
  obtain ⟨hlt, hblank, -⟩ := lt_of_isMark (h.isMark b hb)
  have htoNat : (Char.ofNat b.toNat).toNat = b.toNat := Text.toNat_ofNat (Or.inl (by omega))
  rw [Piece.isBlank, Piece.codePoint, htoNat, hblank]

/-- **A timestamp is written on one line.** -/
lemma IsShown.exists_line (h : IsShown t) (indent : Nat) (key : String) :
    ∃ value, Yaml.writeField indent key t = utf8 key ++ utf8 ": " ++ value ++ [Yaml.lineFeed]
      ∧ Yaml.lineFeed ∉ value := by
  have hchars : t.chars? = some (t.map fun b => Char.ofNat b.toNat) := by
    rw [Text.chars?, h.pieces]
    clear h
    induction t with
    | nil => rfl
    | cons b rest ih => rw [List.map_cons, List.mapM_cons, ih]; rfl
  refine Yaml.exists_line_writeField hchars ?_ indent key
  intro hmem
  obtain ⟨b, hb, heq⟩ := List.mem_map.mp hmem
  exact (lt_of_isMark (h.isMark b hb)).2.2 heq

end Timestamp

end LessonLang
