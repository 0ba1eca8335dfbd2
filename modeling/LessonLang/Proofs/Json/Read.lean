import LessonLang.Proofs.Json.Finite
import LessonLang.Proofs.Json.Sequence
import LessonLang.Proofs.Json.String

/-!
Reading the text of a JSON document.

* `Json.Meaning` says what the documents of a format stand for, each by what its parts stand for, and
  `Json.Meaning.read` reads the text of a document as that.
* `Json.Meaning.Reads m j a`: however the document `j` is written, its text is read as `a`, whatever
  follows it. There is one rule for each kind of document. A number has to be finite, and of a string
  the stray bytes are lost (`Text.repaired`).
* `Json.Meaning.Reads.exists_encode`: so the document has a text, and all of its texts are read.
-/

namespace LessonLang

namespace Json

/-! ### Meanings -/

/-- **What the documents of a format stand for**, each by what its parts stand for. Some objects may
stand for nothing. -/
structure Meaning (α : Type) where
  null : α
  bool : Bool → α
  number : Numeral → α
  string : Text → α
  array : List α → α
  object : List (Text × α) → Option α

namespace Meaning

variable {α : Type} (m : Meaning α)

/-- Reads a field of an object: its name, a colon and its value. -/
def readField (value : Text → Option (α × Text)) (t : Text) : Option ((Text × α) × Text) :=
  (expect 0x22 t).bind fun t => (readString t).bind fun name => (expect 0x3a name.2).bind fun t =>
    (value t).map fun a => ((name.1, a.1), a.2)

/-- The words that are documents. -/
def words : List (Text × α) :=
  [(utf8 "null", m.null), (utf8 "true", m.bool true), (utf8 "false", m.bool false)]

/-- Reads a document, and what it stands for. -/
def read : (budget : Nat) → Text → Option (α × Text)
  | 0, _ => none
  | n + 1, t =>
    match skipSpace t with
    | [] => none
    | b :: rest =>
      if b = 0x22 then (readString rest).map fun r => (m.string r.1, r.2)
      else if b = 0x5b then
        (readSequence 0x5d (read n) n rest).map fun r => (m.array r.1, r.2)
      else if b = 0x7b then
        (readSequence 0x7d (readField (read n)) n rest).bind fun r =>
          (m.object r.1).map fun a => (a, r.2)
      else match m.words.find? fun w => Text.startsWith (b :: rest) w.1 with
        | some w => some (w.2, (b :: rest).drop w.1.length)
        | none => (readNumeral (b :: rest)).map fun r => (m.number r.1, r.2)

/-- **The document `j` is read as `a`**, however it is written and whatever follows it. -/
structure Reads (j : Json) (a : α) : Prop where
  /-- it has a text -/
  finite : j.infinite = []
  /-- all of its texts are read -/
  text : ∀ step depth n, (j.write step depth).length ≤ n → ReadsAs (m.read n) (j.write step depth) a

variable {m}

/-- Behind a quotation mark a string is read. -/
lemma read_quote (n : Nat) (t : Text) :
    m.read (n + 1) (0x22 :: t) = (readString t).map fun r => (m.string r.1, r.2) := by
  rw [read, skipSpace_cons (by decide)]
  rfl

/-- Behind a bracket the items of an array are read. -/
lemma read_bracket (n : Nat) (t : Text) :
    m.read (n + 1) (0x5b :: t)
      = (readSequence 0x5d (m.read n) n t).map fun r => (m.array r.1, r.2) := by
  rw [read, skipSpace_cons (by decide)]
  rfl

/-- Behind a brace the fields of an object are read. -/
lemma read_brace (n : Nat) (t : Text) :
    m.read (n + 1) (0x7b :: t)
      = (readSequence 0x7d (readField (m.read n)) n t).bind fun r =>
          (m.object r.1).map fun a => (a, r.2) := by
  rw [read, skipSpace_cons (by decide)]
  rfl

/-- White space in front is passed over. -/
lemma read_append {blank : Text} (h : Blank blank) (n : Nat) (t : Text) :
    m.read n (blank ++ t) = m.read n t := by
  cases n with
  | zero => rfl
  | succ n => rw [read, read, skipSpace_append h]

lemma readsAs_append {blank t : Text} {a : α} {n : Nat} (h : Blank blank)
    (ht : ReadsAs (m.read n) t a) : ReadsAs (m.read n) (blank ++ t) a := fun rest hrest => by
  rw [List.append_assoc, read_append h, ht rest hrest]

/-- A document has a text, so there is a budget for it. -/
lemma reads_of_succ {j : Json} {a : α} (hj : j.infinite = [])
    (hne : ∀ step depth, j.write step depth ≠ [])
    (h : ∀ step depth n, (j.write step depth).length ≤ n + 1 →
      ReadsAs (m.read (n + 1)) (j.write step depth) a) : m.Reads j a where
  finite := hj
  text step depth n hn := by
    cases n with
    | zero => exact absurd (List.length_eq_zero_iff.mp (Nat.le_zero.mp hn)) (hne step depth)
    | succ n => exact h step depth n hn

lemma reads_null : m.Reads .null m.null := by
  refine reads_of_succ rfl (fun _ _ => ?_) fun _ _ _ _ _ _ => rfl
  rw [write]
  decide

lemma reads_bool (b : Bool) : m.Reads (.bool b) (m.bool b) := by
  refine reads_of_succ rfl (fun _ _ => ?_) fun _ _ _ _ _ _ => ?_
  · rw [write]
    cases b <;> decide
  · cases b <;> rfl

/-- **A string is read** but for its stray bytes. -/
lemma reads_string (t : Text) : m.Reads (.string t) (m.string t.repaired) := by
  refine reads_of_succ rfl (fun _ _ => by simp [write, stringText_eq]) fun step depth n _ rest _ => ?_
  have hstring := readString_pieces t.pieces rest
  rw [write, stringText_eq, List.cons_append, List.cons_append, List.append_assoc, read_quote]
  exact congrArg (Option.map _) hstring

/-- A numeral does not start like another document. -/
lemma isNumeralByte_ne {b : UInt8} (h : isNumeralByte b = true) :
    isSpace b = false ∧ b ∉ utf8 "\"[\x7bntf" := by
  have hall : ∀ n < 256, isNumeralByte (UInt8.ofNat n) = true →
      isSpace (UInt8.ofNat n) = false ∧ UInt8.ofNat n ∉ utf8 "\"[\x7bntf" := by decide +kernel
  simpa using hall b.toNat b.toNat_lt (by simpa using h)

/-- **A numeral is read** up to what cannot belong to it. -/
lemma read_numeral {k : Numeral} {t : Text} (h : k.Spells t) (n : Nat) :
    ReadsAs (m.read (n + 1)) t (m.number k) := by
  intro rest hrest
  have hnumeral := readNumeral_append h hrest
  cases t with
  | nil => exact absurd h Numeral.not_spells_nil
  | cons b t =>
      have hb : isNumeralByte b = true := by
        simpa [isNumeralByte, Numeral.IsByte] using h.isByte b List.mem_cons_self
      obtain ⟨hspace, hne⟩ := isNumeralByte_ne hb
      have hne : b ≠ 0x22 ∧ b ≠ 0x5b ∧ b ≠ 0x7b ∧ b ≠ 0x6e ∧ b ≠ 0x74 ∧ b ≠ 0x66 := by
        simpa [show utf8 "\"[\x7bntf" = [0x22, 0x5b, 0x7b, 0x6e, 0x74, 0x66] from rfl] using hne
      obtain ⟨hquote, hbracket, hbrace, hn, ht, hf⟩ := hne
      have hwords : (m.words.find? fun w => Text.startsWith (b :: (t ++ rest)) w.1) = none := by
        simp [words, Text.startsWith, show utf8 "null" = [0x6e, 0x75, 0x6c, 0x6c] from rfl,
          show utf8 "true" = [0x74, 0x72, 0x75, 0x65] from rfl,
          show utf8 "false" = [0x66, 0x61, 0x6c, 0x73, 0x65] from rfl, hn.symm, ht.symm, hf.symm]
      rw [List.cons_append] at hnumeral ⊢
      rw [read, skipSpace_cons hspace]
      simp only [hquote, hbracket, hbrace, if_false, hwords, hnumeral, Option.map_some]

/-- **A finite number is read** as a numeral of which it is the nearest number. -/
lemma reads_number {x : Float} (hx : x.isFinite = true) :
    ∃ k : Numeral, k.toFinite? = some x ∧ m.Reads (.number x) (m.number k) := by
  obtain ⟨k, hk, hvalue⟩ := layout.exists_spells hx
  have htext : k.Spells (numberText x) := hk
  refine ⟨k, hvalue, reads_of_succ (by simp [infinite, hx]) (fun _ _ hnil => ?_) fun _ _ n _ => ?_⟩
  · rw [write] at hnil
    exact absurd (hnil ▸ htext) Numeral.not_spells_nil
  · rw [write]
    exact read_numeral htext n

/-- An integer as a numeral. -/
def ofInt : Int → Numeral
  | .ofNat n => ⟨false, ⟨n, 0⟩⟩
  | .negSucc n => ⟨true, ⟨n + 1, 0⟩⟩

lemma spells_ofInt (k : Int) : (ofInt k).Spells (Text.ofInt k) := by
  have hnat : ∀ n : Nat, Numeral.Unsigned ⟨n, 0⟩ (Text.ofNat n) := fun n => by
    have hwhole := Numeral.Unsigned.intro (.whole (Text.digits_ofNat n) (Text.ofNat_ne_nil n)) .absent
    rw [Text.digitsValue_ofNat] at hwhole
    simpa using hwhole
  cases k with
  | ofNat n => exact (hnat n).spells .absent
  | negSucc n => exact (hnat (n + 1)).spells .minus

lemma reads_int (k : Int) : m.Reads (.int k) (m.number (ofInt k)) := by
  refine reads_of_succ rfl (fun _ _ hnil => ?_) fun _ _ n _ => ?_
  · rw [write] at hnil
    exact absurd (hnil ▸ spells_ofInt k) Numeral.not_spells_nil
  · rw [write]
    exact read_numeral (spells_ofInt k) n

/-! ### Arrays and objects -/

lemma closes_bracket : Closes 0x5d := ⟨by decide, by decide, by decide⟩

lemma closes_brace : Closes 0x7d := ⟨by decide, by decide, by decide⟩

/-- An item of an array in its line. -/
def itemText (step : Option Nat) (depth : Nat) (j : Json) : Text :=
  newline step depth ++ j.write step depth

/-- A field of an object in its line. -/
def fieldText (step : Option Nat) (depth : Nat) (f : String × Json) : Text :=
  newline step depth ++ stringText (utf8 f.1)
    ++ ((if step.isNone then [0x3a] else [0x3a, 0x20]) ++ f.2.write step depth)

/-- Items are written one by one, with commas between them. -/
lemma writeItems_eq (step : Option Nat) (depth : Nat) (first : Bool) (items : List Json) :
    writeItems step depth first items = commas first (items.map (itemText step depth)) := by
  induction items generalizing first with
  | nil => rfl
  | cons j items ih => simp [writeItems, commas, itemText, ih]

/-- So are fields. -/
lemma writeFields_eq (step : Option Nat) (depth : Nat) (first : Bool) (fields : List (String × Json)) :
    writeFields step depth first fields = commas first (fields.map (fieldText step depth)) := by
  induction fields generalizing first with
  | nil => rfl
  | cons f fields ih => simp [writeFields, commas, fieldText, ih]

/-- The closing byte of an array is no document. -/
lemma read_close (n : Nat) (rest : Text) : m.read n (0x5d :: rest) = none := by
  cases n <;> rfl

/-- The items of an array are read in their lines. -/
lemma forall₂_itemText {items : List Json} {as : List α} (h : List.Forall₂ m.Reads items as)
    (step : Option Nat) (depth : Nat) {n : Nat}
    (hn : (commas true (items.map (itemText step depth))).length ≤ n) :
    List.Forall₂ (ReadsAs (m.read n)) (items.map (itemText step depth)) as := by
  refine forall₂_readsAs h hn fun j a hj ha => ?_
  rw [itemText, List.length_append] at hj
  exact readsAs_append (blank_newline step depth) (ha.text step depth n (by omega))

/-- **An array is read** if its items are. -/
lemma reads_array {items : List Json} {as : List α} (h : List.Forall₂ m.Reads items as) :
    m.Reads (.array items) (m.array as) := by
  have hfinite : ∀ j ∈ items, j.infinite = [] :=
    ((List.forall₂_and_left _ _).mp (h.imp fun _ _ ha => ⟨ha.finite, ha⟩)).1
  refine reads_of_succ (infiniteItems_eq_nil_iff.mpr hfinite) (fun _ _ => ?_)
    fun step depth n hn rest _ => ?_
  · cases items <;> simp [write, utf8]
  cases items with
  | nil =>
      obtain rfl := List.forall₂_nil_left_iff.mp h
      change m.read (n + 1) (0x5b :: 0x5d :: rest) = _
      rw [read_bracket, readSequence, read_close]
      simp [expect_cons closes_bracket.space]
  | cons j items =>
      obtain ⟨a, as, -, -, rfl⟩ := List.forall₂_cons_left_iff.mp h
      have htext : write step depth (.array (j :: items)) =
          0x5b :: (commas true ((j :: items).map (itemText step (depth + 1)))
            ++ (newline step depth ++ [0x5d])) := by
        rw [write, writeItems_eq, List.cons_append, List.cons_append, List.append_assoc]
        exact fun hnil => absurd hnil (by simp)
      rw [htext] at hn ⊢
      have hlines : (commas true ((j :: items).map (itemText step (depth + 1)))).length < n := by
        simp only [List.length_append, List.length_cons, List.length_nil] at hn
        omega
      have hread := readSequence_commas closes_bracket (forall₂_itemText h step (depth + 1) hlines.le)
        (blank_newline step depth) rest hlines
      rw [List.cons_append, List.append_assoc, List.append_assoc, read_bracket]
      exact congrArg (Option.map _) hread

/-- **A field is read**: its name, which has no stray bytes, and its value. -/
lemma readField_fieldText {f : String × Json} {a : α} (h : m.Reads f.2 a) (step : Option Nat)
    (depth : Nat) {n : Nat} (hn : (f.2.write step depth).length ≤ n) :
    ReadsAs (readField (m.read n)) (fieldText step depth f) (utf8 f.1, a) := by
  intro rest hrest
  have hname := readString_pieces (utf8 f.1).pieces
    ((if step.isNone then [0x3a] else [0x3a, 0x20]) ++ (f.2.write step depth ++ rest))
  rw [← Text.repaired, Text.repaired_of_isUtf8 (Text.isUtf8_utf8 f.1)] at hname
  have hvalue : ∀ blank, Blank blank →
      m.read n (blank ++ (f.2.write step depth ++ rest)) = some (a, rest) := fun blank hblank => by
    rw [read_append hblank]
    exact h.text step depth n hn rest hrest
  have htext : fieldText step depth f ++ rest = newline step depth ++ 0x22 ::
      ((utf8 f.1).pieces.flatMap pieceText ++ 0x22 ::
        ((if step.isNone then [0x3a] else [0x3a, 0x20]) ++ (f.2.write step depth ++ rest))) := by
    rw [fieldText, stringText_eq]
    simp
  rw [htext, readField, expect, skipSpace_append (blank_newline step depth),
    skipSpace_cons (by decide)]
  simp only [if_true, Option.bind_some, hname]
  cases step with
  | none =>
      have hcolon := expect_cons (b := 0x3a) (by decide) (f.2.write none depth ++ rest)
      have hread := hvalue [] blank_nil
      simp only [List.nil_append] at hread
      simp [hcolon, hread]
  | some k =>
      have hcolon := expect_cons (b := 0x3a) (by decide) (0x20 :: (f.2.write (some k) depth ++ rest))
      have hread := hvalue [0x20] (by simp [Blank, isSpace])
      simp only [List.singleton_append] at hread
      simp [hcolon, hread]

/-- A field of an object and what is read of it. -/
structure ReadsField (m : Meaning α) (f : String × Json) (x : Text × α) : Prop where
  name : x.1 = utf8 f.1
  value : m.Reads f.2 x.2

lemma Reads.field {j : Json} {a : α} (h : m.Reads j a) (name : String) :
    m.ReadsField (name, j) (utf8 name, a) :=
  ⟨rfl, h⟩

/-- The fields of an object are read in their lines. -/
lemma forall₂_fieldText {fields : List (String × Json)} {xs : List (Text × α)}
    (h : List.Forall₂ m.ReadsField fields xs) (step : Option Nat) (depth : Nat) {n : Nat}
    (hn : (commas true (fields.map (fieldText step depth))).length ≤ n) :
    List.Forall₂ (ReadsAs (readField (m.read n))) (fields.map (fieldText step depth)) xs := by
  refine forall₂_readsAs h hn fun f x hf hx => ?_
  obtain ⟨name, a⟩ := x
  obtain ⟨rfl, ha⟩ := hx
  simp only [fieldText, List.length_append] at hf
  exact readField_fieldText ha step depth (by omega)

/-- **An object is read** if its fields are and it stands for something. -/
lemma reads_object {fields : List (String × Json)} {xs : List (Text × α)} {a : α}
    (h : List.Forall₂ m.ReadsField fields xs) (ha : m.object xs = some a) :
    m.Reads (.object fields) a := by
  have hfinite : ∀ f ∈ fields, f.2.infinite = [] :=
    ((List.forall₂_and_left _ _).mp (h.imp fun _ _ hf => ⟨hf.value.finite, hf⟩)).1
  refine reads_of_succ (infiniteFields_eq_nil_iff.mpr hfinite) (fun _ _ => ?_)
    fun step depth n hn rest _ => ?_
  · cases fields <;> simp [write]
  cases fields with
  | nil =>
      obtain rfl := List.forall₂_nil_left_iff.mp h
      change m.read (n + 1) (0x7b :: 0x7d :: rest) = _
      have hnone : readField (m.read n) (0x7d :: rest) = none := rfl
      rw [read_brace, readSequence, hnone]
      simp [expect_cons closes_brace.space, ha]
  | cons f fields =>
      obtain ⟨x, xs, -, -, rfl⟩ := List.forall₂_cons_left_iff.mp h
      have htext : write step depth (.object (f :: fields)) =
          0x7b :: (commas true ((f :: fields).map (fieldText step (depth + 1)))
            ++ (newline step depth ++ [0x7d])) := by
        rw [write, writeFields_eq, List.cons_append, List.cons_append, List.append_assoc]
        exact fun hnil => absurd hnil (by simp)
      rw [htext] at hn ⊢
      have hlines : (commas true ((f :: fields).map (fieldText step (depth + 1)))).length < n := by
        simp only [List.length_append, List.length_cons, List.length_nil] at hn
        omega
      have hread := readSequence_commas closes_brace (forall₂_fieldText h step (depth + 1) hlines.le)
        (blank_newline step depth) rest hlines
      rw [List.cons_append, List.append_assoc, List.append_assoc, read_brace]
      exact (congrArg (Option.bind · _) hread).trans (by simp [ha])

/-! ### Whole texts -/

end Meaning

end Json

end LessonLang
