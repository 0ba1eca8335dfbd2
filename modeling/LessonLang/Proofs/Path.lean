import Mathlib.Data.List.DropRight
import Mathlib.Tactic
import LessonLang.Path

/-!
Paths and the places they lead to.

* `Path.advance` follows one element of a path from a place, without a look at files, and
  `Path.walk` follows a whole path. To walk along the pieces of a path one after the other is to walk
  along the path (`Path.walk_append`).
* A clean path has steps up in front and names behind them (`Path.Cleaned`, `Path.cleaned`), and to
  clean a path changes nothing about where it leads (`Path.walk_clean`).
* `Path.spot` is the place that a path means from a directory. A path that is put together leads to
  where its parts lead (`Path.spot_join`), and it does not matter in how many steps it is put together
  (`Path.join_join`).
-/

namespace LessonLang

/-! ### Splitting and joining -/

namespace Text

variable {sep : UInt8}

/-- There is always a first piece, if only an empty one. -/
lemma split_ne_nil (t : Text) : split sep t ≠ [] := by
  cases t with
  | nil => simp [split]
  | cons b rest =>
      rw [split]
      split
      · simp
      · split_ifs <;> simp

lemma split_cons_sep (t : Text) : split sep (sep :: t) = [] :: split sep t := by
  rw [split]
  cases h : split sep t with
  | nil => exact absurd h (split_ne_nil t)
  | cons e es => simp

/-- The pieces of two texts with a separator between them are those of the one and then those of the
other. -/
lemma split_append_sep (s t : Text) : split sep (s ++ sep :: t) = split sep s ++ split sep t := by
  induction s with
  | nil => exact split_cons_sep t
  | cons b rest ih =>
      rw [List.cons_append, split, ih, split]
      cases h : split sep rest with
      | nil => exact absurd h (split_ne_nil rest)
      | cons e es =>
          rw [List.cons_append]
          dsimp only
          split_ifs <;> rfl

/-- No piece holds a separator. -/
lemma not_mem_of_mem_split {t e : Text} (he : e ∈ split sep t) : sep ∉ e := by
  induction t generalizing e with
  | nil => simp_all [split]
  | cons b rest ih =>
      rw [split] at he
      cases h : split sep rest with
      | nil => exact absurd h (split_ne_nil rest)
      | cons f fs =>
          rw [h] at he ih
          dsimp only at he
          split_ifs at he with hb
          · obtain rfl | he := List.mem_cons.mp he
            · simp
            · exact ih he
          · obtain rfl | he := List.mem_cons.mp he
            · have hf := ih (List.mem_cons_self (a := f) (l := fs))
              have hne : sep ≠ b := fun hsep => hb (by simp [hsep])
              simp [hf, hne]
            · exact ih (List.mem_cons_of_mem _ he)

/-- A text without separators is its only piece. -/
lemma split_of_not_mem {t : Text} (ht : sep ∉ t) : split sep t = [t] := by
  induction t with
  | nil => rfl
  | cons b rest ih =>
      have hb : ¬(b == sep) = true := fun hsep => ht (by simp [eq_of_beq hsep])
      rw [split, ih fun hrest => ht (List.mem_cons_of_mem b hrest)]
      dsimp only
      rw [if_neg hb]

/-- What is joined is found again by splitting. -/
lemma split_join {es : List Text} (hne : es ≠ []) (hes : ∀ e ∈ es, sep ∉ e) :
    split sep (join [sep] es) = es := by
  induction es with
  | nil => exact absurd rfl hne
  | cons e rest ih =>
      obtain ⟨he, hrest⟩ := List.forall_mem_cons.mp hes
      cases rest with
      | nil => exact split_of_not_mem he
      | cons f fs =>
          have hjoin : join [sep] (e :: f :: fs) = e ++ sep :: join [sep] (f :: fs) := by
            rw [join, List.append_assoc, List.singleton_append]
            simp
          rw [hjoin, split_append_sep, split_of_not_mem he, ih (by simp) hrest,
            List.singleton_append]

end Text

namespace Path

/-! ### Names and steps -/

/-- An element that names something in a directory. -/
structure IsName (e : Text) : Prop where
  ne_nil : e ≠ []
  ne_here : e ≠ here
  ne_above : e ≠ above
  slash : slash ∉ e

/-- Follows one element of a path. -/
def advance (place : List Text) (e : Text) : List Text :=
  if e.isEmpty || e == here then place
  else if e == above then place.dropLast
  else place ++ [e]

/-- Follows a path. -/
def walk (place : List Text) (p : Text) : List Text := (elements p).foldl advance place

@[simp]
lemma advance_nil (place : List Text) : advance place [] = place := rfl

@[simp]
lemma advance_here (place : List Text) : advance place here = place := rfl

@[simp]
lemma advance_above (place : List Text) : advance place above = place.dropLast := rfl

/-- A name leads one level down. -/
lemma advance_of_isName {e : Text} (he : IsName e) (place : List Text) :
    advance place e = place ++ [e] := by
  have hempty : e.isEmpty = false := by simpa using he.ne_nil
  rw [advance, hempty, if_neg (by simpa using he.ne_here), if_neg (by simpa using he.ne_above)]

/-- An element without a slash stays, goes up or names something. -/
lemma element_cases {e : Text} (he : slash ∉ e) : (e = [] ∨ e = here) ∨ e = above ∨ IsName e := by
  by_cases h₁ : e = []
  · exact Or.inl (Or.inl h₁)
  · by_cases h₂ : e = here
    · exact Or.inl (Or.inr h₂)
    · by_cases h₃ : e = above
      · exact Or.inr (Or.inl h₃)
      · exact Or.inr (Or.inr ⟨h₁, h₂, h₃, he⟩)

/-- Names lead down one after the other. -/
lemma foldl_advance_names {ns : List Text} (hns : ∀ e ∈ ns, IsName e) (place : List Text) :
    ns.foldl advance place = place ++ ns := by
  induction ns generalizing place with
  | nil => simp
  | cons e rest ih =>
      obtain ⟨he, hrest⟩ := List.forall_mem_cons.mp hns
      rw [List.foldl_cons, advance_of_isName he, ih hrest, List.append_assoc, List.singleton_append]

/-- Elements that do not go up only lead further down. -/
lemma prefix_foldl_advance {es : List Text} (hes : above ∉ es) (place : List Text) :
    place <+: es.foldl advance place := by
  induction es generalizing place with
  | nil => exact List.prefix_rfl
  | cons e rest ih =>
      refine List.IsPrefix.trans ?_ (ih (fun h => hes (List.mem_cons_of_mem e h)) _)
      rw [advance]
      split_ifs with _ habove
      · exact List.prefix_rfl
      · exact absurd (by simp [eq_of_beq habove]) hes
      · exact List.prefix_append place [e]

/-! ### Walking -/

@[simp]
lemma walk_nil (place : List Text) : walk place [] = place := rfl

lemma walk_append (place : List Text) (p q : Text) :
    walk place (p ++ slash :: q) = walk (walk place p) q := by
  rw [walk, elements, Text.split_append_sep, List.foldl_append]
  rfl

/-- A slash in front does not matter to a walk, which starts where it is told to. -/
lemma walk_slash (place : List Text) (p : Text) : walk place (slash :: p) = walk place p :=
  walk_append place [] p

/-- To walk along elements with slashes between them is to follow one after the other. -/
lemma walk_join {es : List Text} (hes : ∀ e ∈ es, slash ∉ e) (place : List Text) :
    walk place (Text.join [slash] es) = es.foldl advance place := by
  cases es with
  | nil => rfl
  | cons e rest => rw [walk, elements, Text.split_join (by simp) hes]

lemma walk_element {e : Text} (he : slash ∉ e) (place : List Text) :
    walk place e = advance place e := by
  rw [walk, elements, Text.split_of_not_mem he]
  rfl

/-! ### Clean paths -/

/-- **The elements of a clean path**: steps up in front, unless the path starts at the root, and names
behind them. -/
def Cleaned (rooted : Bool) (es : List Text) : Prop :=
  ∃ k ns, es = List.replicate k above ++ ns ∧ (∀ e ∈ ns, IsName e) ∧ (rooted = true → k = 0)

/-- No element of a clean path holds a slash. -/
lemma Cleaned.slash {rooted : Bool} {es : List Text} (h : Cleaned rooted es) :
    ∀ e ∈ es, Path.slash ∉ e := by
  obtain ⟨k, ns, rfl, hns, -⟩ := h
  intro e he
  obtain he | he := List.mem_append.mp he
  · rw [List.eq_of_mem_replicate he]
    decide
  · exact (hns e he).slash

/-- A name is put on the stack. -/
lemma push_of_isName {e : Text} (he : IsName e) (rooted : Bool) (stack : List Text) :
    Path.push rooted stack e = e :: stack := by
  have hempty : e.isEmpty = false := by simpa using he.ne_nil
  rw [Path.push.eq_def, hempty, if_neg (by simpa using he.ne_here),
    if_neg (by simpa using he.ne_above)]

/-- A step up takes the name below it off the stack. -/
lemma push_above_of_isName {e : Text} (he : IsName e) (rooted : Bool) (stack : List Text) :
    Path.push rooted (e :: stack) above = stack := by
  change (if e == above then above :: e :: stack else stack) = stack
  rw [if_neg (by simpa using he.ne_above)]

/-- Steps up pile up where there is no name to take off. -/
lemma push_above_replicate (k : Nat) :
    Path.push false (List.replicate k above) above = List.replicate (k + 1) above := by
  cases k <;> rfl

/-- **One more element** keeps a path clean and leads one element further. -/
lemma Cleaned.push {rooted : Bool} {es : List Text} (h : Cleaned rooted es) {e : Text}
    (he : Path.slash ∉ e) :
    Cleaned rooted (Path.push rooted es.reverse e).reverse
      ∧ ∀ place, (rooted = true → place = []) →
        (Path.push rooted es.reverse e).reverse.foldl advance place
          = advance (es.foldl advance place) e := by
  obtain (rfl | rfl) | rfl | hname := element_cases he
  · exact ⟨by simpa [Path.push] using h, fun place _ => by simp [Path.push]⟩
  · exact ⟨by simpa [Path.push] using h, fun place _ => by simp [Path.push]⟩
  · obtain ⟨k, ns, rfl, hns, hk⟩ := h
    obtain rfl | ⟨init, n, rfl⟩ := ns.eq_nil_or_concat'
    · -- there is nothing but steps up so far
      rw [List.append_nil, List.reverse_replicate]
      cases rooted with
      | true =>
          obtain rfl := hk rfl
          exact ⟨⟨0, [], rfl, by simp, fun _ => rfl⟩, fun place hplace => by
            rw [hplace rfl]
            rfl⟩
      | false =>
          rw [push_above_replicate, List.reverse_replicate]
          refine ⟨⟨k + 1, [], by simp, by simp, by simp⟩, fun place _ => ?_⟩
          rw [List.replicate_succ', List.foldl_append]
          rfl
    · -- the last name is taken back
      have hn : IsName n := hns n (by simp)
      have hpush : (Path.push rooted (List.replicate k above ++ (init ++ [n])).reverse above).reverse
          = List.replicate k above ++ init := by
        rw [← List.append_assoc, List.reverse_concat, push_above_of_isName hn, List.reverse_reverse]
      rw [hpush]
      refine ⟨⟨k, init, rfl, fun f hf => hns f (by simp [hf]), hk⟩, fun place _ => ?_⟩
      rw [← List.append_assoc, List.foldl_concat, advance_of_isName hn, advance_above,
        List.dropLast_concat]
  · rw [push_of_isName hname]
    obtain ⟨k, ns, rfl, hns, hk⟩ := h
    refine ⟨⟨k, ns ++ [e], by simp, ?_, hk⟩, fun place _ => by simp⟩
    simpa [or_imp, forall_and] using ⟨hns, hname⟩

/-- **To clean a path** leaves clean elements that lead where the path leads. -/
lemma cleaned (p : Text) :
    Cleaned (isAbsolute p) (cleanElements p)
      ∧ ∀ place, (isAbsolute p = true → place = []) →
        (cleanElements p).foldl advance place = walk place p := by
  suffices hfold : ∀ es' es : List Text, (∀ e ∈ es', Path.slash ∉ e) → Cleaned (isAbsolute p) es →
      Cleaned (isAbsolute p) (es'.foldl (Path.push (isAbsolute p)) es.reverse).reverse
        ∧ ∀ place, (isAbsolute p = true → place = []) →
          (es'.foldl (Path.push (isAbsolute p)) es.reverse).reverse.foldl advance place
            = es'.foldl advance (es.foldl advance place) from
    hfold (elements p) [] (fun e he => Text.not_mem_of_mem_split he)
      ⟨0, [], rfl, by simp, fun _ => rfl⟩
  intro es'
  induction es' with
  | nil => exact fun es _ hes => ⟨by simpa using hes, fun place _ => by simp⟩
  | cons e rest ih =>
      intro es hes' hes
      obtain ⟨he, hrest⟩ := List.forall_mem_cons.mp hes'
      obtain ⟨hclean, hwalk⟩ := hes.push he
      obtain ⟨hclean', hwalk'⟩ := ih _ hrest hclean
      rw [List.reverse_reverse] at hclean' hwalk'
      refine ⟨hclean', fun place hplace => ?_⟩
      rw [List.foldl_cons, hwalk' place hplace, hwalk place hplace, List.foldl_cons]

/-- A clean absolute path has no steps up: there is nothing above the root. -/
lemma Cleaned.names {es : List Text} (h : Cleaned true es) : ∀ e ∈ es, IsName e := by
  obtain ⟨k, ns, rfl, hns, hk⟩ := h
  obtain rfl := hk rfl
  simpa using hns

/-- **The elements of an absolute path** are the place that it leads to. -/
lemma cleanElements_of_absolute {p : Text} (hp : isAbsolute p = true) :
    cleanElements p = walk [] p := by
  obtain ⟨hclean, hwalk⟩ := cleaned p
  rw [hp] at hclean
  rw [← hwalk [] fun _ => rfl, foldl_advance_names hclean.names, List.nil_append]

/-- Absolute paths lead to places that are made of names. -/
lemma isName_of_mem_walk {p : Text} (hp : isAbsolute p = true) : ∀ e ∈ walk [] p, IsName e := by
  rw [← cleanElements_of_absolute hp]
  have hclean := (cleaned p).1
  rw [hp] at hclean
  exact hclean.names

/-- A clean absolute path spells the place that it leads to. -/
lemma clean_of_absolute {p : Text} (hp : isAbsolute p = true) :
    clean p = slash :: Text.join [slash] (walk [] p) := by
  rw [clean, if_pos hp, cleanElements_of_absolute hp]

/-- The spelling of a place leads to that place. -/
lemma walk_spelled {place : List Text} (hplace : ∀ e ∈ place, IsName e) :
    walk [] (slash :: Text.join [slash] place) = place := by
  rw [walk_slash, walk_join fun e he => (hplace e he).slash, foldl_advance_names hplace,
    List.nil_append]

/-- Elements that are not empty do not begin with a slash when they are put together. -/
lemma head?_join {es : List Text} (hes : ∀ e ∈ es, e ≠ [] ∧ slash ∉ e) :
    (Text.join [slash] es).head? ≠ some slash := by
  cases es with
  | nil => simp [Text.join]
  | cons e rest =>
      obtain ⟨⟨hne, hslash⟩, -⟩ := List.forall_mem_cons.mp hes
      obtain ⟨b, e, rfl⟩ := List.exists_cons_of_ne_nil hne
      have hb : b ≠ slash := fun h => hslash (by simp [h])
      cases rest <;> simpa [Text.join] using hb

/-- No element of a clean path is empty. -/
lemma Cleaned.ne_nil {rooted : Bool} {es : List Text} (h : Cleaned rooted es) :
    ∀ e ∈ es, e ≠ [] ∧ Path.slash ∉ e := by
  intro e he
  refine ⟨?_, h.slash e he⟩
  obtain ⟨k, ns, rfl, hns, -⟩ := h
  obtain he | he := List.mem_append.mp he
  · rw [List.eq_of_mem_replicate he]
    decide
  · exact (hns e he).ne_nil

/-- A clean path is not empty: what leads nowhere is spelled with a dot. -/
lemma clean_ne_nil (p : Text) : clean p ≠ [] := by
  rw [clean]
  split_ifs with _ hempty
  · simp
  · decide
  · simpa using hempty

/-- A path is absolute exactly if it is when it is clean. -/
lemma isAbsolute_clean (p : Text) : isAbsolute (clean p) = isAbsolute p := by
  rw [clean]
  split_ifs with hp hempty
  · rw [hp]
    rfl
  · rw [Bool.not_eq_true] at hp
    rw [hp]
    rfl
  · rw [Bool.not_eq_true] at hp
    rw [hp, isAbsolute, beq_eq_false_iff_ne]
    exact head?_join (cleaned p).1.ne_nil

/-- **A clean path leads where the path leads.** -/
lemma walk_clean (p : Text) {place : List Text} (hplace : isAbsolute p = true → place = []) :
    walk place (clean p) = walk place p := by
  obtain ⟨hclean, hwalk⟩ := cleaned p
  rw [← hwalk place hplace, clean]
  split_ifs with hp hempty
  · rw [walk_slash, walk_join hclean.slash]
  · rw [← walk_join hclean.slash, List.isEmpty_iff.mp hempty]
    rfl
  · rw [walk_join hclean.slash]

/-! ### Paths put together -/

lemma join_cons_cons (p q : Text) (qs : List Text) :
    Text.join [slash] (p :: q :: qs) = p ++ slash :: Text.join [slash] (q :: qs) := by
  rw [Text.join, List.append_assoc, List.singleton_append]
  simp

/-- A path of several parts leads through all of them. -/
lemma walk_joined (place : List Text) (p : Text) (qs : List Text) :
    walk place (Text.join [slash] (p :: qs)) = qs.foldl walk (walk place p) := by
  induction qs generalizing place p with
  | nil => rfl
  | cons q qs ih => rw [join_cons_cons, walk_append, ih, List.foldl_cons]

/-- The first of the joined texts says whether the whole is absolute. -/
lemma isAbsolute_joined {p : Text} (hp : p ≠ []) (qs : List Text) :
    isAbsolute (Text.join [slash] (p :: qs)) = isAbsolute p := by
  obtain ⟨b, p, rfl⟩ := List.exists_cons_of_ne_nil hp
  cases qs <;> rfl

/-- Empty paths lead nowhere and may be left out. -/
lemma foldl_walk_filter (place : List Text) (qs : List Text) :
    (qs.filter fun q => !q.isEmpty).foldl walk place = qs.foldl walk place := by
  induction qs generalizing place with
  | nil => rfl
  | cons q qs ih =>
      rw [List.filter_cons]
      split_ifs with hq
      · rw [List.foldl_cons, ih, List.foldl_cons]
      · obtain rfl : q = [] := by simpa using hq
        rw [ih, List.foldl_cons, walk_nil]

/-- A joined path is empty only if all its parts are. -/
lemma join_ne_nil {p : Text} {ps : List Text} (hmem : p ∈ ps) (hp : p ≠ []) : join ps ≠ [] := by
  have hne : (ps.filter fun q => !q.isEmpty) ≠ [] :=
    List.ne_nil_of_mem (List.mem_filter.mpr ⟨hmem, by simpa using hp⟩)
  rw [join]
  split
  · contradiction
  · exact clean_ne_nil _

lemma join_cons {p : Text} (hp : p ≠ []) (qs : List Text) :
    join (p :: qs) = clean (Text.join [slash] (p :: qs.filter fun q => !q.isEmpty)) := by
  rw [join, List.filter_cons, if_pos (by simpa using hp)]

/-- A joined path is absolute if its first part is. -/
lemma isAbsolute_join {p : Text} (hp : p ≠ []) (qs : List Text) :
    isAbsolute (join (p :: qs)) = isAbsolute p := by
  rw [join_cons hp, isAbsolute_clean, isAbsolute_joined hp]

/-- **A path that is put together** leads through its parts. -/
lemma walk_join_cons {p : Text} (hp : p ≠ []) (qs : List Text) {place : List Text}
    (hplace : isAbsolute p = true → place = []) :
    walk place (join (p :: qs)) = qs.foldl walk (walk place p) := by
  rw [join_cons hp, walk_clean _ (by rwa [isAbsolute_joined hp]), walk_joined, foldl_walk_filter]

lemma ne_nil_of_isAbsolute {p : Text} (hp : isAbsolute p = true) : p ≠ [] := by
  rintro rfl
  exact absurd hp (by decide)

/-- An absolute path that is put together is the spelling of the place it leads to. -/
lemma join_of_absolute {p : Text} (hp : isAbsolute p = true) (qs : List Text) :
    join (p :: qs) = slash :: Text.join [slash] (qs.foldl walk (walk [] p)) := by
  have hne := ne_nil_of_isAbsolute hp
  have habs : isAbsolute (Text.join [slash] (p :: qs.filter fun q => !q.isEmpty)) = true := by
    rw [isAbsolute_joined hne, hp]
  rw [join_cons hne, clean_of_absolute habs, walk_joined, foldl_walk_filter]

/-- **It does not matter in how many steps** an absolute path is put together. -/
lemma join_join {p : Text} (hp : isAbsolute p = true) (ps qs : List Text) :
    join (join (p :: ps) :: qs) = join (p :: (ps ++ qs)) := by
  have habs : isAbsolute (join (p :: ps)) = true := by
    rw [isAbsolute_join (ne_nil_of_isAbsolute hp), hp]
  rw [join_of_absolute habs, walk_join_cons (ne_nil_of_isAbsolute hp) ps fun _ => rfl,
    join_of_absolute hp, List.foldl_append]

/-! ### Spots -/

/-- **The place that a path means** from a directory. -/
def spot (base p : Text) : List Text := cleanElements (absolute base p)

variable {base : Text}

/-- What is made absolute from an absolute directory is so. -/
lemma isAbsolute_absolute (hb : isAbsolute base = true) (p : Text) :
    isAbsolute (absolute base p) = true := by
  rw [absolute]
  split_ifs with hp
  · rw [isAbsolute_clean, hp]
  · rw [isAbsolute_join (ne_nil_of_isAbsolute hb), hb]

/-- The place where the walk along a path starts. -/
def origin (base p : Text) : List Text := if isAbsolute p then [] else walk [] base

/-- The place that a path means is found by a walk, from the root or from the directory. -/
lemma spot_eq (hb : isAbsolute base = true) (p : Text) : spot base p = walk (origin base p) p := by
  rw [spot, cleanElements_of_absolute (isAbsolute_absolute hb p), absolute, origin]
  split_ifs with hp
  · rw [walk_clean p fun _ => rfl]
  · rw [walk_join_cons (ne_nil_of_isAbsolute hb) [p] fun _ => rfl, List.foldl_cons, List.foldl_nil]

/-- Places are made of names. -/
lemma isName_of_mem_spot (hb : isAbsolute base = true) (p : Text) : ∀ e ∈ spot base p, IsName e := by
  rw [spot, cleanElements_of_absolute (isAbsolute_absolute hb p)]
  exact isName_of_mem_walk (isAbsolute_absolute hb p)

/-- The path from the root that a path means is the spelling of its spot. -/
lemma absolute_eq (hb : isAbsolute base = true) (p : Text) :
    absolute base p = slash :: Text.join [slash] (spot base p) := by
  rw [spot_eq hb, origin, absolute]
  split_ifs with hp
  · exact clean_of_absolute hp
  · exact join_of_absolute hb [p]

/-- A path means the same when it is made absolute. -/
lemma spot_absolute (hb : isAbsolute base = true) (p : Text) :
    spot base (absolute base p) = spot base p := by
  rw [spot_eq hb, origin, if_pos (isAbsolute_absolute hb p), absolute_eq hb,
    walk_spelled (isName_of_mem_spot hb p)]

/-- Absolute paths are clean already. -/
lemma clean_absolute (hb : isAbsolute base = true) (p : Text) :
    clean (absolute base p) = absolute base p := by
  have habs := isAbsolute_absolute hb p
  rw [clean_of_absolute habs, ← cleanElements_of_absolute habs]
  exact (absolute_eq hb p).symm

/-- **A path that is put together** leads from the spot of its first part along the others. -/
lemma spot_join (hb : isAbsolute base = true) {p : Text} (hp : p ≠ []) (qs : List Text) :
    spot base (join (p :: qs)) = qs.foldl walk (spot base p) := by
  have horigin : origin base (join (p :: qs)) = origin base p := by
    rw [origin, isAbsolute_join hp, ← origin]
  rw [spot_eq hb, horigin, walk_join_cons hp qs fun h => by rw [origin, if_pos h], ← spot_eq hb]

/-- A name behind a path means what is called so at the place of the path. -/
lemma spot_join_name (hb : isAbsolute base = true) {p e : Text} (hp : p ≠ []) (he : IsName e) :
    spot base (join [p, e]) = spot base p ++ [e] := by
  rw [spot_join hb hp, List.foldl_cons, List.foldl_nil, walk_element he.slash, advance_of_isName he]

/-- A path means the same when it is cleaned. -/
lemma spot_clean (hb : isAbsolute base = true) (p : Text) : spot base (clean p) = spot base p := by
  rw [spot_eq hb, spot_eq hb, origin, isAbsolute_clean, ← origin,
    walk_clean p fun hp => by rw [origin, if_pos hp]]

/-- The last element of a path, and what stands in front of it. -/
lemma exists_dir_eq (p : Text) :
    ∃ q e, p = q ++ e ∧ slash ∉ e ∧ dir p = clean q ∧ (q = [] ∨ ∃ x, q = x ++ [slash]) := by
  refine ⟨p.rdropWhile (· != slash), p.rtakeWhile (· != slash),
    List.rdropWhile_append_rtakeWhile.symm, ?_, rfl, ?_⟩
  · intro hmem
    exact absurd (List.mem_rtakeWhile_imp hmem) (by simp)
  · obtain hnil | ⟨x, b, hx⟩ := (p.rdropWhile (· != slash)).eq_nil_or_concat'
    · exact Or.inl hnil
    · have hb := List.rdropWhile_last_not (· != slash) p (by rw [hx]; simp)
      simp only [hx, List.getLast_append_singleton] at hb
      obtain rfl : b = slash := by simpa using hb
      exact Or.inr ⟨x, hx⟩

/-- **The directory that holds a path** is one element away from it. -/
lemma exists_spot_dir (hb : isAbsolute base = true) (p : Text) :
    ∃ e, slash ∉ e ∧ (elements p).getLast? = some e
      ∧ spot base p = advance (spot base (dir p)) e := by
  obtain ⟨q, e, rfl, he, hdir, rfl | ⟨x, rfl⟩⟩ := exists_dir_eq p
  · have hrel : isAbsolute e = false := by
      rw [isAbsolute, beq_eq_false_iff_ne]
      exact fun hhead => he (List.mem_of_mem_head? hhead)
    refine ⟨e, he, by rw [List.nil_append, elements, Text.split_of_not_mem he]; rfl, ?_⟩
    rw [hdir, spot_clean hb, List.nil_append, spot_eq hb, spot_eq hb, walk_element he, walk_nil,
      origin, hrel]
    rfl
  · have hhead : isAbsolute (x ++ [slash] ++ e) = isAbsolute (x ++ [slash]) := by
      cases x <;> rfl
    have happend : x ++ [slash] ++ e = x ++ slash :: e := by simp
    refine ⟨e, he, ?_, ?_⟩
    · rw [happend, elements, Text.split_append_sep, Text.split_of_not_mem he,
        List.getLast?_concat]
    · rw [hdir, spot_clean hb, spot_eq hb, spot_eq hb, origin, hhead, ← origin, happend,
        walk_append, walk_element he, walk_append, walk_nil]

/-- The directory that holds the spot of a path is one element shorter. -/
lemma spot_dir_absolute (hb : isAbsolute base = true) {p : Text} (hp : spot base p ≠ []) :
    ∃ e, spot base p = spot base (dir (absolute base p)) ++ [e] := by
  obtain ⟨e, -, hlast, hspot⟩ := exists_spot_dir hb (absolute base p)
  have hslash := fun e he => (isName_of_mem_spot hb p e he).slash
  rw [absolute_eq hb, elements, Text.split_cons_sep, Text.split_join hp hslash,
    List.getLast?_cons_of_ne_nil hp] at hlast
  have hname := isName_of_mem_spot hb p e (List.mem_of_getLast? hlast)
  exact ⟨e, by rw [← advance_of_isName hname, ← hspot, spot_absolute hb]⟩

end Path

end LessonLang
