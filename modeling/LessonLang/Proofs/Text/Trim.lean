import Mathlib.Data.List.DropRight
import LessonLang.Lesson
import LessonLang.Proofs.Text.Utf8

/-!
Cutting texts.

* A run of pieces in the middle of a text is read again as the same pieces (`Text.pieces_ofPieces`),
  and a text that starts with an ASCII character does not change how the one in front of it is read
  (`Text.pieces_append`).
* `Text.trim_trim`: a text is trimmed once and for all, and `Text.Padded.trim_eq`: white space around a
  text makes no difference then.
* `Text.trim_replace`: to trim a text and to write ASCII characters for one another are independent,
  so a key is its own key (`keyOf_keyOf`).
* `Path.safeElement_trim`, `Path.slash_not_mem_safeElement`: a safe element does not depend on white
  space around it, and is one element of a path.
-/

namespace LessonLang

namespace Text

/-! ### Pieces -/

/-- To read pieces from a place is to read those of what stands there. -/
lemma piecesFrom_eq_drop (n : Nat) (t : Text) : piecesFrom n t = pieces (t.drop n) := by
  induction t generalizing n with
  | nil =>
      rw [List.drop_nil]
      cases n <;> rfl
  | cons b rest ih =>
      cases n with
      | zero => rfl
      | succ n => exact ih n

/-- Whether a character is read depends on as many bytes as it has. -/
lemma Reads.of_take_eq {b : UInt8} {u v : Text} {c : Char} {n : Nat} (h : Reads b u (.char c) n)
    (huv : v.take (n - 1) = u.take (n - 1)) : Reads b v (.char c) n := by
  cases h with
  | one _ hn hb => exact .one v hn hb
  | two _ hn hb h1 =>
      rcases v with _ | ⟨x, v⟩
      · exact absurd huv (by simp)
      · obtain rfl : x = _ := by simpa using huv
        exact .two v hn hb h1
  | three _ hn hb hmin hmax h2 =>
      rcases v with _ | ⟨x, _ | ⟨y, v⟩⟩
      · exact absurd huv (by simp)
      · exact absurd huv (by simp)
      · obtain ⟨rfl, rfl⟩ : x = _ ∧ y = _ := by simpa using huv
        exact .three v hn hb hmin hmax h2
  | four _ hn hb hmin hmax h2 h3 =>
      rcases v with _ | ⟨x, _ | ⟨y, _ | ⟨z, v⟩⟩⟩
      · exact absurd huv (by simp)
      · exact absurd huv (by simp)
      · exact absurd huv (by simp)
      · obtain ⟨rfl, rfl, rfl⟩ : x = _ ∧ y = _ ∧ z = _ := by simpa using huv
        exact .four v hn hb hmin hmax h2 h3

/-- A byte is stray unless a character is read. -/
lemma stray_or_reads (b : UInt8) (u : Text) :
    first b u = (.stray b, 1) ∨ ∃ c n, Reads b u (.char c) n := by
  have hr := reads_first b u
  rcases hf : first b u with ⟨p, n⟩
  rw [hf] at hr
  dsimp only at hr
  cases p with
  | stray b' =>
      cases hr with
      | stray => exact Or.inl rfl
  | char c => exact Or.inr ⟨c, n, hr⟩

/-- **A piece leads a text** if it is the first to be read off the two together. A character always
is; for a stray byte it depends on what follows. -/
inductive Leads : Piece → Text → Prop where
  | char (c : Char) (u : Text) : Leads (.char c) u
  | stray {b : UInt8} {u : Text} (h : first b u = (.stray b, 1)) : Leads (.stray b) u

/-- A piece that leads a text is its first. -/
lemma pieces_bytes_append {p : Piece} {u : Text} (h : Leads p u) :
    pieces (p.bytes ++ u) = p :: pieces u := by
  cases h with
  | char c =>
      obtain ⟨b, rest, hbytes, hr⟩ := reads_encode c u
      have hdrop : (String.utf8EncodeChar c ++ u).drop (String.utf8EncodeChar c).length = u :=
        List.drop_left
      obtain ⟨n, hn⟩ : ∃ n, (String.utf8EncodeChar c).length = n + 1 :=
        Nat.exists_eq_succ_of_ne_zero (by simp [c.utf8Size_pos.ne'])
      rw [hbytes, hn, List.drop_succ_cons] at hdrop
      rw [Piece.bytes, hbytes, pieces, piecesFrom, first_eq_of_reads hr, piecesFrom_eq_drop, hn,
        Nat.add_sub_cancel, hdrop]
  | stray h =>
      change pieces (_ :: u) = _
      rw [pieces, piecesFrom, h, piecesFrom_eq_drop]
      rfl

/-- A text that is not empty has a first piece. -/
lemma exists_leads (b : UInt8) (rest : Text) :
    ∃ p u, b :: rest = p.bytes ++ u ∧ Leads p u := by
  obtain hstray | ⟨c, n, hr⟩ := stray_or_reads b rest
  · exact ⟨.stray b, rest, rfl, .stray hstray⟩
  · refine ⟨.char c, (b :: rest).drop n, ?_, .char c _⟩
    rw [Piece.bytes, ← hr.take_eq, List.take_append_drop]

/-- **Induction on the pieces of a text.** -/
@[elab_as_elim]
theorem pieceInduction {motive : Text → Prop} (nil : motive [])
    (cons : ∀ p u, Leads p u → motive u → motive (p.bytes ++ u)) (t : Text) : motive t := by
  induction hn : t.length using Nat.strong_induction_on generalizing t with
  | _ n ih =>
    cases t with
    | nil => exact nil
    | cons b rest =>
        obtain ⟨p, u, hsplit, hp⟩ := exists_leads b rest
        rw [hsplit]
        refine cons p u hp (ih u.length ?_ u rfl)
        have hpos : 0 < p.bytes.length := by
          cases p <;> simp [Piece.bytes, Char.utf8Size_pos]
        rw [← hn, hsplit, List.length_append]
        omega

/-- **A text is made of its pieces.** -/
lemma ofPieces_pieces (t : Text) : ofPieces t.pieces = t := by
  induction t using pieceInduction with
  | nil => rfl
  | cons p u hp ih =>
      rw [pieces_bytes_append hp, ofPieces, List.flatMap_cons]
      exact congrArg (p.bytes ++ ·) ih

/-- A piece that leads one text leads another if every character that would be read in front of the
second is read in front of the first. -/
lemma Leads.imp {p : Piece} {u v : Text} (h : Leads p u)
    (huv : ∀ b c n, Reads b v (.char c) n → Reads b u (.char c) n) : Leads p v := by
  cases h with
  | char c => exact .char c v
  | @stray b _ hstray =>
      obtain hv | ⟨c, n, hr⟩ := stray_or_reads b v
      · exact .stray hv
      · exact absurd (hstray.symm.trans (first_eq_of_reads (huv b c n hr))) (by simp)

/-- What leads a longer text leads a shorter one. -/
lemma Leads.of_append {p : Piece} {u v : Text} (h : Leads p (u ++ v)) : Leads p u := by
  refine h.imp fun b c n hr => hr.of_take_eq ?_
  obtain ⟨tails, after, rfl, rfl, -⟩ := hr.tails
  simp

/-- What starts with an ASCII character does not complete a character. -/
lemma Leads.append {p : Piece} {u v : Text} (h : Leads p u) (hv : ∀ x ∈ v.head?, isTail x = false) :
    Leads p (u ++ v) := by
  refine h.imp fun b c n hr => hr.of_take_eq ?_
  obtain ⟨tails, after, hsplit, rfl, htails⟩ := hr.tails
  obtain ⟨more, rfl, rfl⟩ | ⟨left, rfl, rfl⟩ := List.append_eq_append_iff.mp hsplit
  · cases more with
    | nil => simp
    | cons x more =>
        -- a byte of `v` would be a continuation byte
        have hx := htails x (by simp)
        rw [hv x rfl] at hx
        exact absurd hx (by simp)
  · simp

/-- A text is read piece by piece in front of what starts with an ASCII character. -/
lemma pieces_append (t : Text) {u : Text} (hu : ∀ x ∈ u.head?, isTail x = false) :
    pieces (t ++ u) = t.pieces ++ u.pieces := by
  induction t using pieceInduction with
  | nil => rfl
  | cons p t hp ih =>
      rw [List.append_assoc, pieces_bytes_append (hp.append hu), ih, pieces_bytes_append hp,
        List.cons_append]

/-- **A run of pieces** of a text is read again as these pieces. -/
lemma pieces_ofPieces {t : Text} {ps : List Piece} (h : ps <:+: t.pieces) :
    pieces (ofPieces ps) = ps := by
  have hprefix : ∀ (t : Text) (ps : List Piece), ps <+: t.pieces → pieces (ofPieces ps) = ps := by
    intro t
    induction t using pieceInduction with
    | nil =>
        intro ps hps
        obtain rfl := List.prefix_nil.mp hps
        rfl
    | cons p u hp ih =>
        intro ps hps
        cases ps with
        | nil => rfl
        | cons q qs =>
            rw [pieces_bytes_append hp, List.cons_prefix_cons] at hps
            obtain ⟨rfl, qs', hqs⟩ := hps
            have hu : u = ofPieces qs ++ ofPieces qs' := by
              rw [← ofPieces_pieces u, ← hqs, ofPieces, List.flatMap_append]
              rfl
            rw [hu] at hp
            change pieces (q.bytes ++ ofPieces qs) = _
            rw [pieces_bytes_append hp.of_append, ih qs ⟨qs', hqs⟩]
  have hsuffix : ∀ (t : Text) (ps : List Piece), ps <:+ t.pieces → pieces (ofPieces ps) = ps := by
    intro t
    induction t using pieceInduction with
    | nil =>
        intro ps hps
        obtain rfl := List.suffix_nil.mp hps
        rfl
    | cons p u hp ih =>
        intro ps hps
        rw [pieces_bytes_append hp, List.suffix_cons_iff] at hps
        obtain rfl | hps := hps
        · rw [← pieces_bytes_append hp, ofPieces_pieces]
        · exact ih ps hps
  obtain ⟨front, back, hsplit⟩ := h
  have hmiddle : ps ++ back <:+ t.pieces := ⟨front, by rw [← hsplit, List.append_assoc]⟩
  refine hprefix (ofPieces (ps ++ back)) ps ⟨back, ?_⟩
  exact (hsuffix t _ hmiddle).symm

/-! ### White space around a text -/

/-- Pieces without the white space around them. -/
def trimmed (ps : List Piece) : List Piece := (ps.dropWhile Piece.isBlank).rdropWhile Piece.isBlank

lemma trim_eq (t : Text) : t.trim = ofPieces (trimmed t.pieces) := rfl

/-- To trim only takes pieces off the ends. -/
lemma isInfix_trimmed (ps : List Piece) : trimmed ps <:+: ps := by
  have hback : trimmed ps <+: ps.dropWhile Piece.isBlank := List.rdropWhile_prefix _ _
  exact hback.isInfix.trans (ps.dropWhile_suffix Piece.isBlank).isInfix

/-- The pieces of a trimmed text are the trimmed pieces. -/
lemma pieces_trim (t : Text) : t.trim.pieces = trimmed t.pieces := by
  rw [trim_eq, pieces_ofPieces (isInfix_trimmed t.pieces)]

/-- Nothing is left to trim. -/
lemma trimmed_trimmed (ps : List Piece) : trimmed (trimmed ps) = trimmed ps := by
  have hfront : (trimmed ps).dropWhile Piece.isBlank = trimmed ps := by
    have hprefix : trimmed ps <+: ps.dropWhile Piece.isBlank := List.rdropWhile_prefix _ _
    cases htrim : trimmed ps with
    | nil => rfl
    | cons p qs =>
        rw [htrim] at hprefix
        obtain ⟨rs, hrs⟩ := hprefix
        -- the first piece is the first behind the white space in front
        have hself := List.dropWhile_idempotent Piece.isBlank ps
        rw [← hrs, List.cons_append, List.dropWhile_cons] at hself
        rw [List.dropWhile_cons]
        split_ifs at hself ⊢ with hblank
        · exact absurd (congrArg List.length hself) (by
            have := (qs ++ rs).dropWhile_suffix Piece.isBlank |>.length_le
            simp only [List.length_cons]
            omega)
        · rfl
  rw [trimmed, hfront, trimmed, List.rdropWhile_idempotent]

/-- **A text is trimmed once and for all.** -/
lemma trim_trim (t : Text) : t.trim.trim = t.trim := by
  rw [trim_eq t.trim, pieces_trim, trimmed_trimmed, ← trim_eq]

/-- A text without white space is trimmed. -/
lemma trim_eq_self {t : Text} (h : ∀ p ∈ t.pieces, p.isBlank = false) : t.trim = t := by
  have hfront : t.pieces.dropWhile Piece.isBlank = t.pieces :=
    List.dropWhile_eq_self_iff.mpr fun hl => by simp [h _ (List.getElem_mem hl)]
  have hback : t.pieces.rdropWhile Piece.isBlank = t.pieces :=
    List.rdropWhile_eq_self_iff.mpr fun hl => by simp [h _ (List.getLast_mem hl)]
  rw [trim_eq, trimmed, hfront, hback, ofPieces_pieces]

/-- White space only. -/
def OnlyBlank (t : Text) : Prop := ∀ p ∈ t.pieces, p.isBlank = true

instance (t : Text) : Decidable t.OnlyBlank := inferInstanceAs (Decidable (∀ p ∈ t.pieces, _))

/-- **White space around a text**: `u` is `t` with any amount of it in front and behind. -/
def Padded (t u : Text) : Prop :=
  ∃ front back, OnlyBlank front ∧ OnlyBlank back ∧ u = front ++ (t ++ back)

/-- A character does not start with a continuation byte. -/
lemma Reads.isTail_eq {b : UInt8} {rest : Text} {c : Char} {n : Nat} (h : Reads b rest (.char c) n) :
    isTail b = false := by
  rw [← Bool.not_eq_true, isTail_iff]
  cases h <;> omega

/-- White space is made of whole characters. -/
lemma exists_char_of_isBlank {p : Piece} (hp : p.isBlank = true) : ∃ c, p = .char c := by
  cases p with
  | char c => exact ⟨c, rfl⟩
  | stray b => exact absurd hp (by decide : ¬LessonLang.isBlank 0xfffd = true)

/-- White space in front is cut into pieces on its own. -/
lemma OnlyBlank.pieces_append {front : Text} (h : OnlyBlank front) (t : Text) :
    pieces (front ++ t) = front.pieces ++ t.pieces := by
  induction front using pieceInduction with
  | nil => rfl
  | cons p u hp ih =>
      rw [OnlyBlank, pieces_bytes_append hp, List.forall_mem_cons] at h
      obtain ⟨c, rfl⟩ := exists_char_of_isBlank h.1
      rw [List.append_assoc, pieces_bytes_append (.char c _), ih h.2, pieces_bytes_append hp,
        List.cons_append]

/-- White space starts with a whole character. -/
lemma OnlyBlank.isTail_head? {back : Text} (h : OnlyBlank back) :
    ∀ x ∈ back.head?, isTail x = false := by
  cases back using pieceInduction with
  | nil => simp
  | cons p u hp ih =>
      rw [OnlyBlank, pieces_bytes_append hp, List.forall_mem_cons] at h
      obtain ⟨c, rfl⟩ := exists_char_of_isBlank h.1
      obtain ⟨b, rest, hbytes, hr⟩ := reads_encode c u
      intro x hx
      rw [Piece.bytes, hbytes] at hx
      obtain rfl : b = x := by simpa using hx
      exact hr.isTail_eq

/-- Blank pieces around others are trimmed away. -/
lemma trimmed_around {front ps back : List Piece} (hfront : ∀ p ∈ front, p.isBlank = true)
    (hback : ∀ p ∈ back, p.isBlank = true) : trimmed (front ++ (ps ++ back)) = trimmed ps := by
  have hdrop : ∀ qs : List Piece, (qs ++ back).rdropWhile Piece.isBlank = qs.rdropWhile Piece.isBlank := by
    intro qs
    rw [List.rdropWhile, List.reverse_append,
      List.dropWhile_append_of_pos fun p hp => hback p (List.mem_reverse.mp hp), ← List.rdropWhile]
  rw [trimmed, trimmed, List.dropWhile_append_of_pos hfront, List.dropWhile_append]
  split_ifs with hnil
  · rw [List.isEmpty_iff.mp hnil, List.dropWhile_eq_nil_iff.mpr hback]
  · exact hdrop _

/-- **White space around a text** is trimmed away. -/
lemma Padded.trim_eq {t u : Text} (h : Padded t u) : u.trim = t.trim := by
  obtain ⟨front, back, hfront, hback, rfl⟩ := h
  rw [Text.trim_eq, Text.trim_eq, hfront.pieces_append, Text.pieces_append t hback.isTail_head?,
    trimmed_around hfront hback]

/-- An ASCII text is read byte by byte. -/
lemma pieces_of_lt {t : Text} (h : ∀ b ∈ t, b.toNat < 128) :
    t.pieces = t.map fun b => .char (Char.ofNat b.toNat) := by
  induction t with
  | nil => rfl
  | cons b rest ih =>
      obtain ⟨hb, hrest⟩ := List.forall_mem_cons.mp h
      have hone : Reads b rest (.char (Char.ofNat b.toNat)) 1 := .one rest rfl hb
      rw [pieces, piecesFrom, first_eq_of_reads hone, List.map_cons, ← ih hrest]
      rfl

/-! ### Characters written for one another -/

/-- A piece with one ASCII character written for another. -/
def swapPiece (old new : UInt8) : Piece → Piece
  | .char c => if c.toNat = old.toNat then .char (Char.ofNat new.toNat) else .char c
  | .stray b => .stray b

/-- A stray byte is above the ASCII characters. -/
lemma le_of_stray {b : UInt8} {u : Text} (h : first b u = (.stray b, 1)) : 128 ≤ b.toNat := by
  by_contra hlt
  have hone : Reads b u (.char (Char.ofNat b.toNat)) 1 := .one u rfl (by omega)
  exact absurd (h.symm.trans (first_eq_of_reads hone)) (by simp)

/-- A character of several bytes holds no byte to replace. -/
lemma replace_of_le {old : UInt8} (hold : old.toNat < 128) (new : UInt8) {t : Text}
    (ht : ∀ x ∈ t, 128 ≤ x.toNat) : t.replace old new = t := by
  refine (List.map_congr_left fun x hx => ?_).trans (List.map_id t)
  have hne : x ≠ old := by
    rintro rfl
    exact absurd (ht x hx) (by omega)
  rw [if_neg (by simpa using hne), id]

section Swap

variable {old new : UInt8} (hnew : new.toNat < 128)
include hnew

/-- To replace in the bytes of a piece is to swap the piece. -/
lemma replace_bytes (hold : old.toNat < 128) {p : Piece} {u : Text} (h : Leads p u) :
    p.bytes.replace old new = (swapPiece old new p).bytes := by
  cases h with
  | stray h => exact replace_of_le hold new (by simpa [Piece.bytes] using le_of_stray h)
  | char c =>
      obtain ⟨b, hb, rfl⟩ | ⟨hc, hbytes⟩ := encode_ascii_or c
      · have hvalid : b.toNat.isValidChar := Or.inl (by omega)
        rw [Piece.bytes, encode_one hb, swapPiece, show (Char.ofNat b.toNat).toNat = b.toNat from
          toNat_ofNat hvalid]
        by_cases heq : b = old
        · rw [if_pos (congrArg UInt8.toNat heq), Piece.bytes, encode_one hnew, replace]
          simp [heq]
        · rw [if_neg (fun hn => heq (UInt8.toNat_inj.mp hn)), Piece.bytes, encode_one hb, replace]
          simp [heq]
      · rw [Piece.bytes, replace_of_le hold new hbytes, swapPiece, if_neg (by omega), Piece.bytes]

/-- A swapped piece leads the text in which it is replaced. -/
lemma Leads.swap {p : Piece} {u : Text} (h : Leads p u) :
    Leads (swapPiece old new p) (u.replace old new) := by
  cases h with
  | char c =>
      rw [swapPiece]
      split_ifs <;> exact .char _ _
  | @stray b _ h =>
      refine Leads.imp (.stray h) fun b c n hr => hr.of_take_eq ?_
      -- continuation bytes are none of the characters that are replaced
      obtain ⟨tails, after, hsplit, rfl, htails⟩ := hr.tails
      obtain ⟨front, back, rfl, hfront, -⟩ := List.map_eq_append_iff.mp hsplit
      have hkept : front = tails := by
        rw [← hfront]
        refine ((List.map_congr_left fun x hx => ?_).trans (List.map_id front)).symm
        have hx' := htails _ (hfront ▸ List.mem_map_of_mem hx)
        rw [isTail_iff] at hx'
        split_ifs at hx' ⊢
        · omega
        · rfl
      rw [hsplit, hkept]
      simp

/-- The pieces of a text with one ASCII character written for another. -/
lemma pieces_replace (hold : old.toNat < 128) (t : Text) :
    (t.replace old new).pieces = t.pieces.map (swapPiece old new) := by
  induction t using pieceInduction with
  | nil => rfl
  | cons p u hp ih =>
      rw [pieces_bytes_append hp, List.map_cons, ← ih, ← pieces_bytes_append (hp.swap hnew),
        ← replace_bytes hnew hold hp, replace, List.map_append]
      rfl

/-- **To trim a text and to write ASCII characters for one another** are independent, if both are white
space or neither is. -/
lemma trim_replace (hold : old.toNat < 128) (hblank : isBlank new.toNat = isBlank old.toNat)
    (t : Text) : (t.replace old new).trim = t.trim.replace old new := by
  have hswap : Piece.isBlank ∘ swapPiece old new = Piece.isBlank := by
    funext p
    rw [Function.comp_apply]
    cases p with
    | stray b => rw [swapPiece]
    | char c =>
        rw [swapPiece]
        split_ifs with hc
        · have hvalid : new.toNat.isValidChar := Or.inl (by omega)
          rw [Piece.isBlank, Piece.isBlank, Piece.codePoint, Piece.codePoint, hc,
            show (Char.ofNat new.toNat).toNat = new.toNat from toNat_ofNat hvalid, hblank]
        · rfl
  have hmap : ∀ ps : List Piece,
      trimmed (ps.map (swapPiece old new)) = (trimmed ps).map (swapPiece old new) := by
    intro ps
    rw [trimmed, List.dropWhile_map, hswap, List.rdropWhile, ← List.map_reverse,
      List.dropWhile_map, hswap, ← List.map_reverse]
    rfl
  have hpieces : (t.replace old new).trim.pieces = (t.trim.replace old new).pieces := by
    rw [pieces_trim, pieces_replace hnew hold, pieces_replace hnew hold, pieces_trim, hmap]
  rw [← ofPieces_pieces (t.replace old new).trim, hpieces, ofPieces_pieces]

end Swap

end Text

lemma keyOf_eq (name : Text) : keyOf name = name.trim.replace 0x2d 0x5f := rfl

/-- **A key is its own key.** -/
@[simp]
lemma keyOf_keyOf (name : Text) : keyOf (keyOf name) = keyOf name := by
  have hreplace : ∀ t : Text, (t.replace 0x2d 0x5f).replace 0x2d 0x5f = t.replace 0x2d 0x5f := by
    intro t
    rw [Text.replace, Text.replace, List.map_map]
    refine List.map_congr_left fun b _ => ?_
    rw [Function.comp_apply]
    by_cases hb : b = 0x2d <;> simp [hb]
  rw [keyOf_eq (keyOf name), keyOf_eq, Text.trim_replace (by decide) (by decide) (by decide),
    Text.trim_trim, hreplace]

namespace Path

/-- White space around a text does not count in an element. -/
lemma safeElement_trim (t : Text) : safeElement t.trim = safeElement t := by
  rw [safeElement, Text.trim_trim, ← safeElement]

/-- What a piece becomes in a safe element. -/
def safePiece : Piece → UInt8
  | .char c => if isSafe c then Text.byte c else 0x5f
  | .stray _ => 0x5f

lemma safeElement_eq (t : Text) :
    safeElement t = if t.trim.isEmpty then utf8 "head" else t.trim.pieces.map safePiece := by
  rw [safeElement]
  split_ifs
  · rfl
  · refine List.map_congr_left fun p _ => ?_
    cases p <;> rfl

/-- A safe character is an ASCII character. -/
lemma lt_of_isSafe {c : Char} (hc : isSafe c = true) : c.val.toNat < 128 := by
  have hletter : c.isAlpha = (decide (c.val ≥ 'A'.val ∧ c.val ≤ 'Z'.val)
      || decide (c.val ≥ 'a'.val) && decide (c.val ≤ 'z'.val)) := rfl
  simp only [isSafe, Char.isAlphanum, hletter, Char.isDigit, Bool.or_eq_true, decide_eq_true_eq,
    Bool.and_eq_true, beq_iff_eq, ge_iff_le, UInt32.le_iff_toNat_le] at hc
  rcases hc with ((((⟨-, h⟩ | ⟨-, h⟩) | ⟨-, h⟩) | rfl) | rfl) | rfl
  · change c.val.toNat ≤ 90 at h
    omega
  · change c.val.toNat ≤ 122 at h
    omega
  · change c.val.toNat ≤ 57 at h
    omega
  all_goals decide

/-- The byte of a safe character tells which one it is. -/
lemma eq_of_byte_eq {c d : Char} (hc : isSafe c = true) (hd : d.val.toNat < 128)
    (h : Text.byte c = Text.byte d) : c = d := by
  have hlt := lt_of_isSafe hc
  have hmod : c.val.toNat % 256 = d.val.toNat % 256 := congrArg UInt8.toNat h
  exact Char.ext (UInt32.toNat_inj.mp (by omega))

/-- No safe character is a slash. -/
lemma byte_ne_slash {c : Char} (hc : isSafe c = true) : Text.byte c ≠ slash := by
  intro hslash
  obtain rfl : c = '/' := eq_of_byte_eq hc (by decide) hslash
  exact absurd hc (by decide)

/-- A safe element holds no slash. -/
lemma slash_not_mem_safeElement (t : Text) : slash ∉ safeElement t := by
  rw [safeElement_eq]
  split_ifs
  · decide
  · intro hslash
    obtain ⟨p, -, hp⟩ := List.mem_map.mp hslash
    cases p with
    | stray b => exact absurd hp (by simp [safePiece, slash])
    | char c =>
        rw [safePiece] at hp
        split_ifs at hp with hc
        · exact byte_ne_slash hc hp
        · exact absurd hp (by decide)

/-- A safe element is not empty. -/
lemma safeElement_ne_nil (t : Text) : safeElement t ≠ [] := by
  rw [safeElement_eq]
  split_ifs with h
  · decide
  · intro hnil
    have hpieces : t.trim = [] := by
      rw [← Text.ofPieces_pieces t.trim, List.map_eq_nil_iff.mp hnil]
      rfl
    exact h (by rw [hpieces]; rfl)

/-- A hexadecimal digit at the end of a text stays at the end of the element. -/
lemma getLast?_safeElement {b : UInt8} (hb : (hexValue? b).isSome = true) (t : Text) :
    (safeElement (t ++ [b])).getLast? = some b := by
  have hdigits : ∀ n < 256, (hexValue? (UInt8.ofNat n)).isSome = true →
      n < 128 ∧ isBlank n = false ∧ Text.isTail (UInt8.ofNat n) = false := by
    decide +kernel
  have hpieces : ∀ n < 256, (hexValue? (UInt8.ofNat n)).isSome = true →
      Text.pieces [UInt8.ofNat n] = [.char (Char.ofNat n)] := by
    decide +kernel
  have hbytes : ∀ n < 256, (hexValue? (UInt8.ofNat n)).isSome = true →
      safePiece (.char (Char.ofNat n)) = UInt8.ofNat n := by
    decide +kernel
  have hb' : (hexValue? (UInt8.ofNat b.toNat)).isSome = true := by simpa using hb
  obtain ⟨hascii, hblank, htail⟩ := hdigits b.toNat b.toNat_lt hb'
  have hpiece := hpieces b.toNat b.toNat_lt hb'
  have hsafe := hbytes b.toNat b.toNat_lt hb'
  have hn : (Char.ofNat b.toNat).toNat = b.toNat := Text.toNat_ofNat (Or.inl (by omega))
  rw [UInt8.ofNat_toNat] at hpiece hsafe htail
  have hpieces : (t ++ [b]).pieces = t.pieces ++ [.char (Char.ofNat b.toNat)] := by
    rw [Text.pieces_append t (by simpa using htail), hpiece]
  obtain ⟨ps, hps⟩ : ∃ ps, (t ++ [b]).trim.pieces = ps ++ [.char (Char.ofNat b.toNat)] := by
    have hnot : ¬Piece.isBlank (.char (Char.ofNat b.toNat)) = true := by
      rw [Piece.isBlank, Piece.codePoint, hn, hblank]
      simp
    have hdrop : ∃ ps, (t.pieces ++ [Piece.char (Char.ofNat b.toNat)]).dropWhile Piece.isBlank
        = ps ++ [.char (Char.ofNat b.toNat)] := by
      rw [List.dropWhile_append]
      split_ifs
      · exact ⟨[], by rw [List.dropWhile_cons_of_neg hnot]; rfl⟩
      · exact ⟨_, rfl⟩
    obtain ⟨ps, hps⟩ := hdrop
    refine ⟨ps, ?_⟩
    rw [Text.pieces_trim, hpieces, Text.trimmed, hps, List.rdropWhile_concat_neg _ _ _ hnot]
  have hne : (t ++ [b]).trim.isEmpty = false := by
    cases htrim : (t ++ [b]).trim with
    | nil => exact absurd hps (by rw [htrim]; simp [Text.pieces, Text.piecesFrom])
    | cons => rfl
  rw [safeElement_eq, hne, if_neg (by simp), hps, List.map_append]
  simp [hsafe]

end Path

end LessonLang
