import LessonLang.Json
import LessonLang.Proofs.Text.Trim

/-!
Strings of JSON documents are read back.

* `Json.readString` reads a string behind its opening quotation mark.
* `Json.charText_cases`: a character is written in one of three ways, and each is read back
  (`Json.readString_charText`).
* `Json.readString_pieces`: so a string is read back, but for its stray bytes: `Text.repaired` is the text
  with these replaced, and a text without any stays as it is.
-/

namespace LessonLang

/-! ### Stray bytes -/

namespace Text

/-- The bytes that are written for a piece: a stray byte becomes the replacement character. -/
def repairedPiece : Piece → Text
  | .char c => String.utf8EncodeChar c
  | .stray _ => String.utf8EncodeChar '\ufffd'

/-- A text with its stray bytes replaced. -/
def repaired (t : Text) : Text := t.pieces.flatMap repairedPiece

/-- **A text without stray bytes** stays as it is. -/
lemma repaired_of_isUtf8 {t : Text} (h : t.isUtf8 = true) : t.repaired = t := by
  have hpieces : ∀ p ∈ t.pieces, repairedPiece p = p.bytes := by
    intro p hp
    cases p with
    | char c => rfl
    | stray b => exact absurd (List.all_eq_true.mp h _ hp) (by simp)
  rw [repaired, List.flatMap_congr hpieces]
  exact ofPieces_pieces t

lemma pieces_ofChars (cs : List Char) : (ofChars cs).pieces = cs.map Piece.char := by
  induction cs with
  | nil => rfl
  | cons c cs ih =>
      rw [ofChars, List.flatMap_cons]
      exact (pieces_bytes_append (.char c _)).trans (congrArg (_ :: ·) ih)

lemma isUtf8_utf8 (s : String) : (utf8 s).isUtf8 = true := by
  rw [isUtf8, show utf8 s = ofChars s.toList from rfl, pieces_ofChars]
  simp

end Text

/-! ### Strings -/

namespace Json

/-- What a letter behind a backslash stands for. -/
def escaped? (b : UInt8) : Option UInt8 :=
  [(0x22, 0x22), (0x5c, 0x5c), (0x62, 0x08), (0x66, 0x0c), (0x6e, 0x0a), (0x72, 0x0d),
   (0x74, 0x09)].lookup b

/-- The number that hexadecimal digits spell. -/
def hexNumber? (ds : Text) : Option Nat :=
  ds.foldlM (fun n b => (hexValue? b).map (16 * n + ·)) 0

/-- Reads a string behind its opening quotation mark, up to the closing one. -/
def readString : Text → Option (Text × Text)
  | [] => none
  | 0x22 :: rest => some ([], rest)
  | 0x5c :: 0x75 :: a :: b :: c :: d :: rest =>
    (hexNumber? [a, b, c, d]).bind fun n =>
      (readString rest).map fun r => (String.utf8EncodeChar (Char.ofNat n) ++ r.1, r.2)
  | 0x5c :: letter :: rest =>
    (escaped? letter).bind fun b => (readString rest).map fun r => (b :: r.1, r.2)
  | b :: rest => (readString rest).map fun r => (b :: r.1, r.2)

lemma readString_unicode (a b c d : UInt8) (rest : Text) :
    readString (0x5c :: 0x75 :: a :: b :: c :: d :: rest) =
      (hexNumber? [a, b, c, d]).bind fun n =>
        (readString rest).map fun r => (String.utf8EncodeChar (Char.ofNat n) ++ r.1, r.2) := by
  rw [readString]

lemma readString_escape {letter : UInt8} (h : letter ≠ 0x75) (rest : Text) :
    readString (0x5c :: letter :: rest) =
      (escaped? letter).bind fun b => (readString rest).map fun r => (b :: r.1, r.2) := by
  rw [readString]
  simp [h]

/-- Plain bytes stand for themselves. -/
lemma readString_append {bs : Text} (h : ∀ b ∈ bs, b ≠ 0x22 ∧ b ≠ 0x5c) (rest : Text) :
    readString (bs ++ rest) = (readString rest).map fun r => (bs ++ r.1, r.2) := by
  induction bs with
  | nil => simp
  | cons b bs ih =>
      obtain ⟨hquote, hback⟩ := h b List.mem_cons_self
      rw [List.cons_append, readString, ih fun x hx => h x (List.mem_cons_of_mem _ hx), Option.map_map]
      · rfl
      · exact hquote
      · exact fun _ _ _ _ _ hb => absurd hb hback
      · exact fun _ _ hb => absurd hb hback

lemma hexNumber?_hexDigits (width n : Nat) :
    hexNumber? (hexDigits width n) = some (n % 16 ^ width) := by
  have hvalue : ∀ d < 16, hexValue? (hexDigit d) = some d := by decide
  induction width generalizing n with
  | zero => simp [hexNumber?, hexDigits, Nat.mod_one]
  | succ width ih =>
      have hprefix := ih (n / 16)
      rw [hexNumber?] at hprefix
      rw [hexDigits, hexNumber?, List.foldlM_append, hprefix]
      simp only [Option.bind_eq_bind, Option.bind_some, List.foldlM_cons, List.foldlM_nil,
        hvalue (n % 16) (Nat.mod_lt _ (by decide)), Option.map_some, Option.pure_def, pow_succ']
      rw [Nat.mod_mul, add_comm]

/-- The bytes of a character are plain unless it is a mark itself. -/
lemma plain_encode {c : Char} (hquote : c ≠ '"') (hback : c ≠ '\\') :
    ∀ b ∈ String.utf8EncodeChar c, b ≠ 0x22 ∧ b ≠ 0x5c := by
  intro b hb
  obtain ⟨a, ha, rfl⟩ | ⟨-, hall⟩ := Text.encode_ascii_or c
  · rw [Text.encode_one ha, List.mem_singleton] at hb
    subst hb
    refine ⟨?_, ?_⟩ <;> rintro rfl
    · exact hquote rfl
    · exact hback rfl
  · have hlow := hall b hb
    refine ⟨?_, ?_⟩ <;> rintro rfl <;> exact absurd hlow (by decide)

/-- **How a character is written**: as a letter behind a backslash, as a number behind one, or as it
is. -/
lemma charText_cases (c : Char) :
    (∃ letter b, charText c = [0x5c, letter] ∧ letter ≠ 0x75 ∧ escaped? letter = some b
      ∧ String.utf8EncodeChar c = [b])
    ∨ (c.toNat < 0x10000 ∧ charText c = 0x5c :: 0x75 :: hexDigits 4 c.toNat)
    ∨ (charText c = String.utf8EncodeChar c ∧ ∀ b ∈ String.utf8EncodeChar c, b ≠ 0x22 ∧ b ≠ 0x5c) := by
  have hletter : ∀ e ∈ [('\x08', 'b'), ('\x0c', 'f'), ('\n', 'n'), ('\r', 'r'), ('\t', 't')],
      Text.byte e.2 ≠ 0x75 ∧ escaped? (Text.byte e.2) = some (Text.byte e.1)
        ∧ String.utf8EncodeChar e.1 = [Text.byte e.1] := by decide
  rw [charText]
  by_cases hmark : (c == '"' || c == '\\') = true
  · rw [if_pos hmark]
    simp only [Bool.or_eq_true, beq_iff_eq] at hmark
    rcases hmark with rfl | rfl
    · exact Or.inl ⟨0x22, 0x22, rfl, by decide, rfl, rfl⟩
    · exact Or.inl ⟨0x5c, 0x5c, rfl, by decide, rfl, rfl⟩
  · rw [if_neg hmark]
    simp only [Bool.or_eq_true, beq_iff_eq, not_or] at hmark
    split
    next letter hlookup =>
      obtain ⟨before, after, hmem, -⟩ := List.lookup_eq_some_iff.mp hlookup
      obtain ⟨hne, hback, hbyte⟩ := hletter (c, letter) (by simp [hmem])
      exact Or.inl ⟨_, _, rfl, hne, hback, hbyte⟩
    next =>
      split_ifs with hspecial
      · refine Or.inr (Or.inl ⟨?_, rfl⟩)
        simp only [Bool.or_eq_true, decide_eq_true_eq, beq_iff_eq] at hspecial
        rcases hspecial with ((((h | rfl) | rfl) | rfl) | rfl) | rfl
        · omega
        all_goals decide
      · exact Or.inr (Or.inr ⟨rfl, plain_encode hmark.1 hmark.2⟩)

/-- **A character is read back.** -/
lemma readString_charText (c : Char) (rest : Text) :
    readString (charText c ++ rest) =
      (readString rest).map fun r => (String.utf8EncodeChar c ++ r.1, r.2) := by
  obtain ⟨letter, b, htext, hne, hback, hbytes⟩ | ⟨hlt, htext⟩ | ⟨htext, hplain⟩ := charText_cases c
  · rw [htext, hbytes, List.cons_append, List.cons_append, List.nil_append, readString_escape hne, hback]
    rfl
  · have hnumber := hexNumber?_hexDigits 4 c.toNat
    rw [Nat.mod_eq_of_lt (by simpa using hlt)] at hnumber
    rw [htext]
    refine (readString_unicode _ _ _ _ rest).trans ?_
    rw [show hexNumber? [_, _, _, _] = some c.toNat from hnumber, Option.bind_some, Char.ofNat_toNat]
  · rw [htext, readString_append hplain]

/-- What is written for a piece of a string. -/
def pieceText : Piece → Text
  | .char c => charText c
  | .stray _ => String.utf8EncodeChar '\ufffd'

lemma stringText_eq (t : Text) : stringText t = 0x22 :: t.pieces.flatMap pieceText ++ [0x22] := by
  rw [stringText]
  refine congrArg (fun f => 0x22 :: t.pieces.flatMap f ++ [0x22]) (funext fun p => ?_)
  cases p <;> rfl

/-- **A string is read back** but for its stray bytes. -/
lemma readString_pieces (ps : List Piece) (rest : Text) :
    readString (ps.flatMap pieceText ++ 0x22 :: rest) = some (ps.flatMap Text.repairedPiece, rest) := by
  induction ps with
  | nil => rfl
  | cons p ps ih =>
      have hp : readString (pieceText p ++ (ps.flatMap pieceText ++ 0x22 :: rest)) =
          (readString (ps.flatMap pieceText ++ 0x22 :: rest)).map
            fun r => (Text.repairedPiece p ++ r.1, r.2) := by
        cases p with
        | char c => exact readString_charText c _
        | stray b => exact readString_append (@plain_encode '\ufffd' (by decide) (by decide)) _
      rw [List.flatMap_cons, List.append_assoc, hp, ih]
      rfl

end Json

end LessonLang
