import LessonLang.Json
import LessonLang.Proofs.Value.Shown

/-!
Numerals and sequences in the text of JSON documents are read back.

* A numeral is read up to where it ends (`Json.readNumeral_append`), so what stands behind it must not go
  on with it (`Json.Ends`).
* `Json.ReadsAs`: a text is read as a thing, whatever follows it. `Json.readSequence` reads things with
  commas between them, for arrays and objects alike, and `Json.readSequence_commas` says that it reads
  back what is read back item by item.
-/

namespace LessonLang

namespace Json

/-! ### Blanks and numerals -/

/-- A byte of white space. -/
def isSpace (b : UInt8) : Bool := b == 0x20 || b == 0x0a

/-- Skips white space. -/
def skipSpace (t : Text) : Text := t.dropWhile isSpace

/-- White space and nothing else. -/
def Blank (t : Text) : Prop := ∀ b ∈ t, isSpace b = true

lemma blank_nil : Blank [] := by simp [Blank]

lemma blank_newline (step : Option Nat) (depth : Nat) : Blank (newline step depth) := by
  intro b hb
  cases step with
  | none => exact absurd hb List.not_mem_nil
  | some n =>
      obtain rfl | hb := List.mem_cons.mp hb
      · rfl
      · rw [List.eq_of_mem_replicate hb]
        rfl

lemma skipSpace_append {blank : Text} (h : Blank blank) (t : Text) :
    skipSpace (blank ++ t) = skipSpace t :=
  List.dropWhile_append_of_pos h

lemma skipSpace_cons {b : UInt8} (h : isSpace b = false) (t : Text) : skipSpace (b :: t) = b :: t :=
  List.dropWhile_cons_of_neg (by simp [h])

/-- A byte that numerals have. -/
def isNumeralByte (b : UInt8) : Bool := isDigit b || (utf8 "+-.eE").contains b

/-- What stands here does not go on with a numeral. -/
def Ends (t : Text) : Prop := ∀ b ∈ t.head?, isNumeralByte b = false

lemma ends_cons {b : UInt8} {t : Text} (h : isNumeralByte b = false) : Ends (b :: t) := by
  simpa [Ends] using h

lemma Blank.ends_append {blank t : Text} (h : Blank blank) (ht : Ends t) : Ends (blank ++ t) := by
  cases blank with
  | nil => exact ht
  | cons b blank =>
      have hb : b = 0x20 ∨ b = 0x0a := by simpa [isSpace] using h b List.mem_cons_self
      refine ends_cons ?_
      rcases hb with rfl | rfl <;> decide

/-- Reads a numeral. -/
def readNumeral (t : Text) : Option (Numeral × Text) :=
  (Numeral.read? (t.takeWhile isNumeralByte)).map fun n => (n, t.dropWhile isNumeralByte)

/-- **A numeral is read back** where it ends. -/
lemma readNumeral_append {n : Numeral} {t : Text} (h : n.Spells t) {rest : Text} (hrest : Ends rest) :
    readNumeral (t ++ rest) = some (n, rest) := by
  have hbytes : ∀ b ∈ t, isNumeralByte b = true := fun b hb => by
    simpa [isNumeralByte, Numeral.IsByte] using h.isByte b hb
  have hstop : rest.takeWhile isNumeralByte = [] ∧ rest.dropWhile isNumeralByte = rest := by
    cases rest with
    | nil => exact ⟨rfl, rfl⟩
    | cons b rest => simp [hrest b rfl]
  rw [readNumeral, List.takeWhile_append_of_pos hbytes, List.dropWhile_append_of_pos hbytes, hstop.1,
    hstop.2, List.append_nil, Numeral.read?_eq_some_iff.mpr h]
  rfl

/-! ### Sequences -/

section sequences

variable {β : Type}

/-- Reads one byte behind white space. -/
def expect (b : UInt8) (t : Text) : Option Text :=
  match skipSpace t with
  | [] => none
  | c :: rest => if c = b then some rest else none

lemma expect_cons {b : UInt8} (h : isSpace b = false) (rest : Text) :
    expect b (b :: rest) = some rest := by
  rw [expect, skipSpace_cons h]
  simp

/-- Reads what follows an item of a sequence: the closing byte, or a comma and more items. -/
def readMore (close : UInt8) (item : Text → Option (β × Text)) : (budget : Nat) → Text →
    Option (List β × Text)
  | 0, _ => none
  | n + 1, t =>
    match skipSpace t with
    | [] => none
    | b :: rest =>
      if b = close then some ([], rest)
      else if b = 0x2c then
        (item rest).bind fun x => (readMore close item n x.2).map fun xs => (x.1 :: xs.1, xs.2)
      else none

/-- Reads a sequence up to its closing byte. -/
def readSequence (close : UInt8) (item : Text → Option (β × Text)) (budget : Nat) (t : Text) :
    Option (List β × Text) :=
  match item t with
  | none => (expect close t).map fun rest => ([], rest)
  | some (x, rest) => (readMore close item budget rest).map fun xs => (x :: xs.1, xs.2)

/-- The text `t` is read as `x`, whatever follows it. -/
def ReadsAs (item : Text → Option (β × Text)) (t : Text) (x : β) : Prop :=
  ∀ rest, Ends rest → item (t ++ rest) = some (x, rest)

/-- Texts with commas between them, or also with one in front. -/
def commas (first : Bool) : List Text → Text
  | [] => []
  | t :: ts => (if first then [] else [0x2c]) ++ t ++ commas false ts

lemma length_le_commas {t : Text} {ts : List Text} (ht : t ∈ ts) (first : Bool) :
    t.length ≤ (commas first ts).length := by
  induction ts generalizing first with
  | nil => exact absurd ht List.not_mem_nil
  | cons u ts ih =>
      simp only [commas, List.length_append]
      obtain rfl | ht := List.mem_cons.mp ht
      · omega
      · have := ih ht false
        omega

lemma count_le_commas (ts : List Text) : ts.length ≤ (commas false ts).length := by
  induction ts with
  | nil => exact le_rfl
  | cons t ts ih =>
      simp only [commas, List.length_append, List.length_cons, Bool.false_eq_true, if_false]
      omega

variable {item : Text → Option (β × Text)} {close : UInt8}

/-- Things are read if each is read from a text of its size. -/
lemma forall₂_readsAs {γ : Type} {text : γ → Text} {R : γ → β → Prop} {cs : List γ} {xs : List β}
    {n : Nat} (h : List.Forall₂ R cs xs) (hn : (commas true (cs.map text)).length ≤ n)
    (hread : ∀ c x, (text c).length ≤ n → R c x → ReadsAs item (text c) x) :
    List.Forall₂ (ReadsAs item) (cs.map text) xs := by
  have hlength : ∀ c ∈ cs, (text c).length ≤ n := fun c hc =>
    (length_le_commas (List.mem_map_of_mem hc) true).trans hn
  refine List.forall₂_map_left_iff.mpr (((List.forall₂_and_left _ _).mpr ⟨hlength, h⟩).imp ?_)
  exact fun c x hx => hread c x hx.1 hx.2

/-- A byte that can close a sequence. -/
structure Closes (close : UInt8) : Prop where
  space : isSpace close = false
  comma : close ≠ 0x2c
  numeral : isNumeralByte close = false

lemma Closes.ends (h : Closes close) {ts : List Text} {blank : Text} (hblank : Blank blank)
    (rest : Text) : Ends (commas false ts ++ (blank ++ close :: rest)) := by
  cases ts with
  | nil => exact hblank.ends_append (ends_cons h.numeral)
  | cons t ts => exact ends_cons (by decide)

lemma readMore_commas (h : Closes close) {ts : List Text} {xs : List β}
    (hitems : List.Forall₂ (ReadsAs item) ts xs) {blank : Text} (hblank : Blank blank) (rest : Text)
    {n : Nat} (hn : ts.length < n) :
    readMore close item n (commas false ts ++ (blank ++ close :: rest)) = some (xs, rest) := by
  induction hitems generalizing n with
  | nil =>
      obtain ⟨n, rfl⟩ := Nat.exists_eq_add_of_lt hn
      rw [readMore]
      simp [commas, skipSpace_append hblank, skipSpace_cons h.space]
  | @cons t x ts xs hitem _ ih =>
      obtain ⟨n, rfl⟩ := Nat.exists_eq_add_of_lt hn
      have hread := hitem _ (h.ends hblank rest : Ends (commas false ts ++ (blank ++ close :: rest)))
      have hmore := ih (n := ts.length + 1 + n) (by omega)
      have hcomma : (0x2c : UInt8) ≠ close := h.comma.symm
      simp only [commas, Bool.false_eq_true, if_false, List.cons_append, List.nil_append,
        List.append_assoc, List.length_cons]
      rw [readMore, skipSpace_cons (by decide)]
      simp only [hcomma, if_false, if_true, hread, Option.bind_some, hmore, Option.map_some]

/-- **A sequence is read back.** -/
lemma readSequence_commas (h : Closes close) {t : Text} {x : β} {ts : List Text} {xs : List β}
    (hitems : List.Forall₂ (ReadsAs item) (t :: ts) (x :: xs)) {blank : Text} (hblank : Blank blank)
    (rest : Text) {n : Nat} (hn : (commas true (t :: ts)).length < n) :
    readSequence close item n (commas true (t :: ts) ++ (blank ++ close :: rest))
      = some (x :: xs, rest) := by
  obtain ⟨hitem, hitems⟩ := List.forall₂_cons.mp hitems
  have hread := hitem _ (h.ends hblank rest : Ends (commas false ts ++ (blank ++ close :: rest)))
  have hcount : ts.length < n := by
    have hle := count_le_commas ts
    simp only [commas, List.length_append] at hn
    omega
  simp only [commas, if_true, List.nil_append, List.append_assoc]
  rw [readSequence, hread]
  simp only [readMore_commas h hitems hblank rest hcount, Option.map_some]

end sequences

end Json

end LessonLang
