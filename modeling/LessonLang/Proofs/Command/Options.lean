import LessonLang.Command.Options
import LessonLang.Proofs.Decimal.Numeral

/-!
The arguments of the run command as a grammar.

* `IsInteger` relates a text to the 64-bit integer that it spells, and `readDepth?_eq_some_iff` says that
  depths are the positive ones.
* `Item` is one part of the arguments. `Item.Spells` has its spellings, `OneEntry` says that nothing
  positional follows a positional item that is not empty, and `gathered` is what the items amount to.
* `Offends` has the arguments that no item can start with, each with its error.
* Reading takes one item after the other (`parseFrom_item`) and stops at an offence
  (`parseFrom_offends`); arguments begin with one or the other (`exists_item`).
* `RunOptions.parse_items`: reading succeeds exactly for lists of items, and fails at the first offence.
-/

namespace LessonLang

open Numeral (Sign Digits)

/-! ### Integers -/

/-- **An integer as text**: an optional sign and decimal digits, in the range of 64 bits. -/
inductive IsInteger : Text → Int → Prop where
  | intro {s ds : Text} {negative : Bool} {n : Int} (hs : Sign s negative) (hds : Digits ds)
      (hne : ds ≠ []) (hn : n = if negative then -(digitsValue ds : Int) else digitsValue ds)
      (hrange : -2 ^ 63 ≤ n ∧ n < 2 ^ 63) : IsInteger (s ++ ds) n

lemma readDepth?_of_digits {ds t : Text} (ht : t = ds ∨ t = 0x2b :: ds) (hds : Digits ds)
    (hne : ds ≠ []) :
    readDepth? t = if 0 < digitsValue ds ∧ digitsValue ds < 2 ^ 63 then some (digitsValue ds)
      else none := by
  have hall : (!ds.isEmpty && ds.all isDigit) = true := by
    rw [List.isEmpty_eq_false_iff.mpr hne]
    exact List.all_eq_true.mpr hds
  rw [readDepth?.eq_def]
  rcases ht with rfl | rfl
  · split
    · exact absurd rfl (Numeral.ne_sign_of_isDigit (hds 0x2b List.mem_cons_self)).1
    · simp only [hall, if_true, Bool.and_eq_true, decide_eq_true_eq]
      rfl
  · simp only [hall, if_true, Bool.and_eq_true, decide_eq_true_eq]
    rfl

lemma exists_digits_of_readDepth? {t : Text} {n : Nat} (h : readDepth? t = some n) :
    ∃ ds, (t = ds ∨ t = 0x2b :: ds) ∧ Digits ds ∧ ds ≠ [] := by
  have hdigits : ∀ {ds : Text} {m : Option Nat},
      (if !ds.isEmpty && ds.all isDigit then m else none) = some n → Digits ds ∧ ds ≠ [] := by
    intro ds m hsome
    split_ifs at hsome with hds
    rw [Bool.and_eq_true, Bool.not_eq_true', List.isEmpty_eq_false_iff, List.all_eq_true] at hds
    exact hds.symm
  rw [readDepth?.eq_def] at h
  split at h
  · exact ⟨_, .inr rfl, hdigits h⟩
  · exact ⟨_, .inl rfl, hdigits h⟩

/-- **Depths are the positive integers.** -/
lemma readDepth?_eq_some_iff {t : Text} {n : Nat} :
    readDepth? t = some n ↔ IsInteger t n ∧ 1 ≤ n := by
  constructor
  · intro h
    obtain ⟨ds, ht, hds, hne⟩ := exists_digits_of_readDepth? h
    rw [readDepth?_of_digits ht hds hne] at h
    split_ifs at h with hrange
    obtain rfl := Option.some.inj h
    refine ⟨?_, hrange.1⟩
    rcases ht with rfl | rfl
    · exact .intro .absent hds hne rfl (by omega)
    · exact .intro .plus hds hne rfl (by omega)
  · rintro ⟨h, hpos⟩
    generalize hm : (n : Int) = m at h
    obtain ⟨hs, hds, hne, hvalue, hrange⟩ := h
    cases hs with
    | absent =>
        rw [if_neg Bool.false_ne_true] at hvalue
        rw [List.nil_append, readDepth?_of_digits (.inl rfl) hds hne, if_pos (by omega)]
        exact congrArg some (by omega)
    | plus =>
        rw [if_neg Bool.false_ne_true] at hvalue
        rw [List.singleton_append, readDepth?_of_digits (.inr rfl) hds hne, if_pos (by omega)]
        exact congrArg some (by omega)
    | minus =>
        rw [if_pos rfl] at hvalue
        omega

/-! ### Items -/

/-- One part of the arguments: a flag with its value, or a positional argument. -/
inductive Item where
  | input (value : Text)
  | depth (n : Nat)
  | entry (name : Text)

namespace Item

/-- An argument that looks like a flag. -/
def IsFlag (a : Text) : Prop := utf8 "--" <+: a

/-- **The spellings of an item.** The value of a flag stands behind a sign of equality or is an argument
of its own, and then it may be any text. -/
inductive Spells : Item → List Text → Prop where
  | input (v : Text) : Spells (.input v) [inputFlag, v]
  | inputJoined (v : Text) : Spells (.input v) [inputFlag ++ 0x3d :: v]
  | depth {t : Text} {n : Nat} (ht : IsInteger t n) (hn : 1 ≤ n) : Spells (.depth n) [depthFlag, t]
  | depthJoined {t : Text} {n : Nat} (ht : IsInteger t n) (hn : 1 ≤ n) :
      Spells (.depth n) [depthFlag ++ 0x3d :: t]
  | entry {a : Text} (ha : ¬IsFlag a) : Spells (.entry a) [a]

/-- The answer that an item gives. -/
def input? : Item → Option Text
  | input v => some v
  | _ => none

/-- The depth that an item sets. -/
def depth? : Item → Option Nat
  | depth n => some n
  | _ => none

/-- The argument of a positional item. -/
def entry? : Item → Option Text
  | entry a => some a
  | _ => none

/-- A flag with its value. -/
def isOption : Item → Bool
  | entry _ => false
  | _ => true

end Item

namespace RunOptions

open Item (IsFlag)

/-- Nothing positional follows a positional item that is not empty. -/
def OneEntry (items : List Item) : Prop := (items.filterMap Item.entry?).Pairwise fun a _ => a = []

/-- **What items amount to**: all answers in order, and the last positional item and depth. -/
def gathered (items : List Item) : RunOptions where
  entry := ((items.filterMap Item.entry?).getLast?).getD []
  inputs := items.filterMap Item.input?
  maxDepth := (items.filterMap Item.depth?).getLast?

/-- **The arguments that no item can start with**, where `entry` is the last positional item so far, and
the error for each. -/
inductive Offends (entry : Text) : List Text → OptionError → Prop where
  | inputAtEnd : Offends entry [inputFlag] (.missingValue inputFlag)
  | depthAtEnd : Offends entry [depthFlag] (.missingValue depthFlag)
  | depth {t : Text} (ht : ∀ n : Int, IsInteger t n → n < 1) (rest : List Text) :
      Offends entry (depthFlag :: t :: rest) (.badDepth t)
  | depthJoined {t : Text} (ht : ∀ n : Int, IsInteger t n → n < 1) (rest : List Text) :
      Offends entry ((depthFlag ++ 0x3d :: t) :: rest) (.badDepth t)
  | unknown {a : Text} (ha : IsFlag a) (hinput : ¬(a = inputFlag ∨ inputFlag ++ [0x3d] <+: a))
      (hdepth : ¬(a = depthFlag ∨ depthFlag ++ [0x3d] <+: a)) (rest : List Text) :
      Offends entry (a :: rest) (.unknownFlag a)
  | second {a : Text} (ha : ¬IsFlag a) (hentry : entry ≠ []) (rest : List Text) :
      Offends entry (a :: rest) (.unexpected a)

/-- The options with one item more. -/
def add (o : RunOptions) : Item → RunOptions
  | .input v => o.addInput v
  | .depth n => { o with maxDepth := some n }
  | .entry a => { o with entry := a }

/-- An item may follow where `entry` is the last positional item so far. -/
def Admits (entry : Text) (i : Item) : Prop := i.isOption = false → entry = []

/-! ### What items amount to -/

variable {items : List Item} {i : Item}

lemma gathered_concat (items : List Item) (i : Item) :
    gathered (items ++ [i]) = (gathered items).add i := by
  cases i <;> simp [gathered, add, addInput, Item.entry?, Item.input?, Item.depth?]

lemma hasInputs_gathered_iff (items : List Item) :
    (gathered items).hasInputs = true ↔ ∃ v, Item.input v ∈ items := by
  rw [hasInputs, Bool.not_eq_true', List.isEmpty_eq_false_iff_exists_mem]
  simp only [gathered, List.mem_filterMap]
  constructor
  · rintro ⟨v, i, hi, hv⟩
    cases i with
    | input w => exact ⟨w, hi⟩
    | depth n => exact absurd hv (by simp [Item.input?])
    | entry a => exact absurd hv (by simp [Item.input?])
  · rintro ⟨v, hv⟩
    exact ⟨v, _, hv, rfl⟩

/-- Items amount to what their options and their positional items amount to. -/
lemma gathered_eq {items' : List Item}
    (hoptions : items'.filter Item.isOption = items.filter Item.isOption)
    (hentries : items'.filterMap Item.entry? = items.filterMap Item.entry?) :
    gathered items' = gathered items := by
  have hfilter : ∀ {α : Type} (f : Item → Option α), (∀ a, f (.entry a) = none) →
      ∀ l : List Item, (l.filter Item.isOption).filterMap f = l.filterMap f := by
    intro α f hf l
    rw [List.filterMap_filter]
    refine List.filterMap_congr fun i _ => ?_
    cases i with
    | entry a => exact (hf a).symm
    | input v => rfl
    | depth n => rfl
  rw [gathered, gathered, hentries, ← hfilter Item.input? fun _ => rfl, hoptions,
    hfilter Item.input? fun _ => rfl, ← hfilter Item.depth? fun _ => rfl, hoptions,
    hfilter Item.depth? fun _ => rfl]

lemma eq_nil_of_pairwise {entries : List Text} (h : entries.Pairwise fun a _ => a = [])
    (hlast : entries.getLast?.getD [] = []) : ∀ a ∈ entries, a = [] := by
  rcases List.eq_nil_or_concat entries with rfl | ⟨front, last, rfl⟩
  · simp
  · rw [List.concat_eq_append, List.getLast?_concat, Option.getD_some] at hlast
    rw [List.concat_eq_append, List.pairwise_append] at h
    simp only [List.concat_eq_append, List.mem_append, List.mem_singleton]
    rintro a (ha | rfl)
    · exact h.2.2 a ha last (List.mem_singleton_self last)
    · exact hlast

/-- A positional item may follow as long as all others are empty. -/
lemma oneEntry_concat_iff : OneEntry (items ++ [i]) ↔ OneEntry items ∧ Admits (gathered items).entry i := by
  rw [OneEntry, OneEntry, List.filterMap_append, Admits]
  cases i with
  | input v => simp [List.filterMap_cons, Item.entry?, Item.isOption]
  | depth n => simp [List.filterMap_cons, Item.entry?, Item.isOption]
  | entry a =>
      rw [show [Item.entry a].filterMap Item.entry? = [a] from rfl, List.pairwise_append]
      simp only [Item.isOption, List.pairwise_singleton, true_and, List.mem_singleton, forall_eq,
        forall_const]
      refine and_congr_right fun h => ⟨fun hall => ?_, eq_nil_of_pairwise h⟩
      rw [gathered]
      cases hlast : (items.filterMap Item.entry?).getLast? with
      | none => rfl
      | some b => exact hall b (List.mem_of_getLast? hlast)

/-! ### One argument -/

lemma flagValue?_eq_some_iff {flag a v : Text} :
    flagValue? flag a = some v ↔ a = flag ++ 0x3d :: v := by
  rw [flagValue?, Text.startsWith]
  split_ifs with h
  · obtain ⟨u, rfl⟩ := List.isPrefixOf_iff_prefix.mp h
    simp
  · refine iff_of_false (by simp) ?_
    rintro rfl
    exact h (List.isPrefixOf_iff_prefix.mpr ⟨v, by simp⟩)

lemma flagValue?_eq_none_iff {flag a : Text} :
    flagValue? flag a = none ↔ ¬flag ++ [0x3d] <+: a := by
  rw [flagValue?, Text.startsWith, ← List.isPrefixOf_iff_prefix]
  split_ifs with h <;> simp [h]

/-- The flag for depths is another one than that for answers, with or without a value. -/
lemma depthFlag_ne (v : Text) : depthFlag ++ v ≠ inputFlag ∧ ¬inputFlag ++ [0x3d] <+: depthFlag ++ v :=
  have hthird : (some 0x6d : Option UInt8) ≠ some 0x69 := by decide
  ⟨fun h => hthird (congrArg (·[2]?) h), fun ⟨_, h⟩ => hthird (congrArg (·[2]?) h.symm)⟩

lemma isFlag_inputFlag (v : Text) : IsFlag (inputFlag ++ v) := ⟨utf8 "input" ++ v, rfl⟩

lemma isFlag_depthFlag (v : Text) : IsFlag (depthFlag ++ v) := ⟨utf8 "max-depth" ++ v, rfl⟩

lemma classify_inputFlag : classify inputFlag = .inputNext := by decide

lemma classify_depthFlag : classify depthFlag = .depthNext := by decide

lemma classify_input (v : Text) : classify (inputFlag ++ 0x3d :: v) = .input v := by
  rw [classify, if_neg (by simp), flagValue?_eq_some_iff.mpr rfl]

lemma classify_depth (v : Text) : classify (depthFlag ++ 0x3d :: v) = .depth v := by
  obtain ⟨hne, hjoined⟩ := depthFlag_ne (0x3d :: v)
  rw [classify, if_neg (by simpa using hne), flagValue?_eq_none_iff.mpr hjoined]
  dsimp only
  rw [if_neg (by simp), flagValue?_eq_some_iff.mpr rfl]

/-- Arguments without a meaning of their own are told apart by how they begin. -/
lemma classify_of_other {a : Text} (hinput : ¬(a = inputFlag ∨ inputFlag ++ [0x3d] <+: a))
    (hdepth : ¬(a = depthFlag ∨ depthFlag ++ [0x3d] <+: a)) :
    classify a = if a.startsWith (utf8 "--") then .otherFlag else .positional := by
  obtain ⟨hinput, hjoined⟩ := not_or.mp hinput
  obtain ⟨hdepth, hjoined'⟩ := not_or.mp hdepth
  rw [classify, if_neg (by simpa using hinput), flagValue?_eq_none_iff.mpr hjoined]
  dsimp only
  rw [if_neg (by simpa using hdepth), flagValue?_eq_none_iff.mpr hjoined']

lemma classify_unknown {a : Text} (ha : IsFlag a)
    (hinput : ¬(a = inputFlag ∨ inputFlag ++ [0x3d] <+: a))
    (hdepth : ¬(a = depthFlag ∨ depthFlag ++ [0x3d] <+: a)) : classify a = .otherFlag := by
  rw [classify_of_other hinput hdepth, Text.startsWith, if_pos (List.isPrefixOf_iff_prefix.mpr ha)]

lemma classify_entry {a : Text} (ha : ¬IsFlag a) : classify a = .positional := by
  have hother : ∀ {flag : Text}, (∀ v, IsFlag (flag ++ v)) → ¬(a = flag ∨ flag ++ [0x3d] <+: a) := by
    rintro flag hflag (rfl | ⟨u, rfl⟩)
    · exact ha (by simpa using hflag [])
    · exact ha (by simpa using hflag (0x3d :: u))
  rw [classify_of_other (hother isFlag_inputFlag) (hother isFlag_depthFlag), Text.startsWith,
    if_neg fun h => ha (List.isPrefixOf_iff_prefix.mp h)]

/-! ### Reading items and offences -/

variable {o : RunOptions} {args rest xs : List Text}

/-- **Reading takes one item** after the other. -/
lemma parseFrom_item (hi : i.Spells xs) (hadmits : Admits o.entry i) :
    parseFrom o (xs ++ rest) = parseFrom (o.add i) rest := by
  cases hi with
  | input v =>
      rw [List.cons_append, List.cons_append, parseFrom.eq_def]
      simp only [classify_inputFlag]
      rfl
  | inputJoined v =>
      rw [List.cons_append, parseFrom.eq_def]
      simp only [classify_input]
      rfl
  | depth ht hn =>
      rw [List.cons_append, List.cons_append, parseFrom.eq_def]
      simp only [classify_depthFlag, readDepth?_eq_some_iff.mpr ⟨ht, hn⟩]
      rfl
  | depthJoined ht hn =>
      rw [List.cons_append, parseFrom.eq_def]
      simp only [classify_depth, readDepth?_eq_some_iff.mpr ⟨ht, hn⟩]
      rfl
  | entry ha =>
      rw [List.cons_append, parseFrom.eq_def]
      simp only [classify_entry ha, hadmits rfl, List.isEmpty_nil, if_true]
      rfl

lemma readDepth?_eq_none_iff {t : Text} :
    readDepth? t = none ↔ ∀ n : Int, IsInteger t n → n < 1 := by
  rw [Option.eq_none_iff_forall_ne_some]
  constructor
  · intro h n hn
    by_contra hpos
    obtain ⟨k, rfl⟩ := Int.eq_ofNat_of_zero_le (a := n) (by omega)
    exact h k (readDepth?_eq_some_iff.mpr ⟨hn, by omega⟩)
  · intro h n hn
    obtain ⟨hn, hpos⟩ := readDepth?_eq_some_iff.mp hn
    have := h n hn
    omega

/-- **Reading stops at an offence** and keeps what it has. -/
lemma parseFrom_offends {e : OptionError} (h : Offends o.entry args e) :
    parseFrom o args = (o, some e) := by
  rw [parseFrom.eq_def]
  cases h with
  | inputAtEnd => simp only [classify_inputFlag]
  | depthAtEnd => simp only [classify_depthFlag]
  | depth ht rest => simp only [classify_depthFlag, readDepth?_eq_none_iff.mpr ht]
  | depthJoined ht rest => simp only [classify_depth, readDepth?_eq_none_iff.mpr ht]
  | unknown ha hinput hdepth rest => simp only [classify_unknown ha hinput hdepth]
  | second ha hentry rest =>
      simp only [classify_entry ha, List.isEmpty_eq_false_iff.mpr hentry, Bool.false_eq_true, if_false]

/-- A numeral is a depth or an offence. -/
lemma depth_or_offends (t : Text) :
    (∃ n : Nat, IsInteger t n ∧ 1 ≤ n) ∨ ∀ n : Int, IsInteger t n → n < 1 := by
  cases h : readDepth? t with
  | none => exact .inr (readDepth?_eq_none_iff.mp h)
  | some n => exact .inl ⟨n, readDepth?_eq_some_iff.mp h⟩

/-- **Arguments begin with an item or with an offence.** -/
lemma exists_item (entry a : Text) (rest : List Text) :
    (∃ i xs tail, a :: rest = xs ++ tail ∧ tail.length < (a :: rest).length ∧ Item.Spells i xs ∧
      Admits entry i) ∨ ∃ e, Offends entry (a :: rest) e := by
  by_cases hflag : IsFlag a
  · by_cases hinput : a = inputFlag ∨ inputFlag ++ [0x3d] <+: a
    · rcases hinput with rfl | ⟨v, rfl⟩
      · cases rest with
        | nil => exact .inr ⟨_, .inputAtEnd⟩
        | cons v rest => exact .inl ⟨_, _, rest, rfl, by simp, .input v, by simp [Admits, Item.isOption]⟩
      · rw [List.append_assoc]
        exact .inl ⟨_, _, rest, rfl, by simp, .inputJoined v, by simp [Admits, Item.isOption]⟩
    by_cases hdepth : a = depthFlag ∨ depthFlag ++ [0x3d] <+: a
    · rcases hdepth with rfl | ⟨t, rfl⟩
      · cases rest with
        | nil => exact .inr ⟨_, .depthAtEnd⟩
        | cons t rest =>
            obtain ⟨n, ht, hn⟩ | ht := depth_or_offends t
            · exact .inl ⟨_, _, rest, rfl, by simp, .depth ht hn, by simp [Admits, Item.isOption]⟩
            · exact .inr ⟨_, .depth ht rest⟩
      · rw [List.append_assoc]
        obtain ⟨n, ht, hn⟩ | ht := depth_or_offends t
        · exact .inl ⟨_, _, rest, rfl, by simp, .depthJoined ht hn, by simp [Admits, Item.isOption]⟩
        · exact .inr ⟨_, .depthJoined ht rest⟩
    · exact .inr ⟨_, .unknown hflag hinput hdepth rest⟩
  · by_cases hentry : entry = []
    · exact .inl ⟨_, _, rest, rfl, by simp, .entry hflag, fun _ => hentry⟩
    · exact .inr ⟨_, .second hflag hentry rest⟩

/-! ### Reading all arguments -/

/-- Reading a list of items adds them to those in front, and goes on behind them. -/
lemma parseFrom_flatten {parts : List (List Text)} (hparts : List.Forall₂ Item.Spells items parts)
    (front : List Item) (hone : OneEntry (front ++ items)) (rest : List Text) :
    parseFrom (gathered front) (parts.flatten ++ rest)
      = parseFrom (gathered (front ++ items)) rest := by
  induction hparts generalizing front with
  | nil => rw [List.append_nil, List.flatten_nil, List.nil_append]
  | @cons i xs items parts hi hparts ih =>
      rw [List.append_cons] at hone
      have hsub : OneEntry (front ++ [i]) :=
        List.Pairwise.sublist ((List.sublist_append_left _ items).filterMap _) hone
      rw [List.flatten_cons, List.append_assoc, parseFrom_item hi (oneEntry_concat_iff.mp hsub).2,
        ← gathered_concat, ih _ hone, ← List.append_cons]

/-- **Reading a list of items** gathers them, and goes on behind them. -/
lemma parse_append {parts : List (List Text)} (hparts : List.Forall₂ Item.Spells items parts)
    (hone : OneEntry items) (rest : List Text) :
    parse (parts.flatten ++ rest) = parseFrom (gathered items) rest :=
  parseFrom_flatten hparts [] hone rest

/-- Arguments are items up to the first offence. -/
lemma exists_items (args : List Text) (items : List Item) (hone : OneEntry items) :
    ∃ more parts rest, List.Forall₂ Item.Spells more parts ∧ args = parts.flatten ++ rest ∧
      OneEntry (items ++ more) ∧ (rest = [] ∨ ∃ e, Offends (gathered (items ++ more)).entry rest e) := by
  induction h : args.length using Nat.strong_induction_on generalizing args items with
  | _ n ih =>
    subst h
    cases args with
    | nil => exact ⟨[], [], [], .nil, rfl, by simpa using hone, .inl rfl⟩
    | cons a rest =>
        obtain ⟨i, xs, tail, hsplit, hshort, hi, hadmits⟩ | ⟨e, he⟩ :=
          exists_item (gathered items).entry a rest
        · obtain ⟨more, parts, left, hmore, rfl, hall, hend⟩ :=
            ih tail.length hshort tail (items ++ [i]) (oneEntry_concat_iff.mpr ⟨hone, hadmits⟩) rfl
          rw [List.append_assoc] at hall hend
          refine ⟨i :: more, xs :: parts, left, .cons hi hmore, ?_, hall, hend⟩
          rw [hsplit, List.flatten_cons, List.append_assoc]
        · exact ⟨[], [], a :: rest, .nil, rfl, by simpa using hone, .inr ⟨e, by simpa using he⟩⟩

/-- **The arguments of the run command.** Reading succeeds exactly for lists of items in which nothing
positional follows a positional item that is not empty, and gives what the items amount to. It fails
exactly at the first offence, with the error for it and what the items in front of it amount to. There are
answers if there is an item that gives one. Where the positional items stand among the options makes no
difference. -/
theorem parse_items (args : List Text) :
    (∀ o, parse args = (o, none) ↔ ∃ items parts, List.Forall₂ Item.Spells items parts ∧
      args = parts.flatten ∧ OneEntry items ∧ o = gathered items) ∧
    (∀ o e, parse args = (o, some e) ↔ ∃ items parts rest, List.Forall₂ Item.Spells items parts ∧
      args = parts.flatten ++ rest ∧ OneEntry items ∧ Offends (gathered items).entry rest e ∧
      o = gathered items) ∧
    (∀ items, (gathered items).hasInputs = true ↔ ∃ v, Item.input v ∈ items) ∧
    (∀ items parts items' parts', List.Forall₂ Item.Spells items parts → args = parts.flatten →
      OneEntry items → List.Forall₂ Item.Spells items' parts' →
      items'.filter Item.isOption = items.filter Item.isOption →
      items'.filterMap Item.entry? = items.filterMap Item.entry? →
      parse parts'.flatten = parse args) := by
  have hread : ∀ {items parts}, List.Forall₂ Item.Spells items parts → OneEntry items →
      parse parts.flatten = (gathered items, none) := by
    intro items parts hparts hone
    simpa [parseFrom] using parse_append hparts hone []
  obtain ⟨items, parts, rest, hparts, rfl, hone, hend⟩ := exists_items args [] .nil
  rw [List.nil_append] at hone hend
  refine ⟨fun o => ⟨fun h => ?_, ?_⟩, fun o e => ⟨fun h => ?_, ?_⟩, hasInputs_gathered_iff, ?_⟩
  · rcases hend with rfl | ⟨e, he⟩
    · rw [List.append_nil, hread hparts hone] at h
      exact ⟨items, parts, hparts, List.append_nil _, hone, (congrArg Prod.fst h).symm⟩
    · rw [parse_append hparts hone, parseFrom_offends he] at h
      exact absurd (congrArg Prod.snd h) (by simp)
  · rintro ⟨items', parts', hparts', hargs, hone', rfl⟩
    rw [hargs, hread hparts' hone']
  · rcases hend with rfl | ⟨e', he⟩
    · rw [List.append_nil, hread hparts hone] at h
      exact absurd (congrArg Prod.snd h) (by simp)
    · rw [parse_append hparts hone, parseFrom_offends he] at h
      obtain ⟨rfl, rfl⟩ : gathered items = o ∧ e' = e := by simpa using h
      exact ⟨items, parts, rest, hparts, rfl, hone, he, rfl⟩
  · rintro ⟨items', parts', rest', hparts', hargs, hone', he, rfl⟩
    rw [hargs, parse_append hparts' hone', parseFrom_offends he]
  · intro items₁ parts₁ items₂ parts₂ h₁ hargs hone₁ h₂ hoptions hentries
    have hone₂ : OneEntry items₂ := by rwa [OneEntry, hentries]
    rw [hargs, hread h₁ hone₁, hread h₂ hone₂, gathered_eq hoptions hentries]

/-- The value of a flag may look like a flag, and the target may stand among the options. -/
theorem parse_items_moved :
    parse [inputFlag, depthFlag, utf8 "--max-depth=+7", utf8 "tour"]
        = (⟨utf8 "tour", [depthFlag], some 7⟩, none) ∧
      parse [inputFlag, depthFlag, utf8 "tour", utf8 "--max-depth=+7"]
        = parse [inputFlag, depthFlag, utf8 "--max-depth=+7", utf8 "tour"] := by
  have hdigits : Digits (utf8 "7") := by
    intro b hb
    obtain rfl : b = 0x37 := List.mem_singleton.mp hb
    decide
  have hseven : IsInteger (utf8 "+7") (7 : Nat) :=
    .intro .plus hdigits (by decide) (by decide) (by decide)
  have htarget : ¬Item.IsFlag (utf8 "tour") := fun h =>
    absurd (List.isPrefixOf_iff_prefix.mpr h) (by decide)
  have hparts : List.Forall₂ Item.Spells [.input depthFlag, .depth 7, .entry (utf8 "tour")]
      [[inputFlag, depthFlag], [utf8 "--max-depth=+7"], [utf8 "tour"]] :=
    .cons (.input _) (.cons (.depthJoined hseven (by decide)) (.cons (.entry htarget) .nil))
  have hparts' : List.Forall₂ Item.Spells [.input depthFlag, .entry (utf8 "tour"), .depth 7]
      [[inputFlag, depthFlag], [utf8 "tour"], [utf8 "--max-depth=+7"]] :=
    .cons (.input _) (.cons (.entry htarget) (.cons (.depthJoined hseven (by decide)) .nil))
  have hone : OneEntry [.input depthFlag, .depth 7, .entry (utf8 "tour")] := List.pairwise_singleton _ _
  obtain ⟨hok, -, -, hmoved⟩ := parse_items [inputFlag, depthFlag, utf8 "--max-depth=+7", utf8 "tour"]
  exact ⟨(hok _).mpr ⟨_, _, hparts, rfl, hone, rfl⟩, hmoved _ _ _ _ hparts rfl hone hparts' rfl rfl⟩

end RunOptions

end LessonLang
