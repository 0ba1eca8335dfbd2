import Mathlib
import LessonLang.Proofs.Lockfile

/-!
A lockfile as a sorted map.

* `Lockfile.Opened` says where recording starts: at a new lockfile or at one that was read.
* To record a lesson either puts it in the place of an entry (`Lockfile.upsert_of_mem`) or adds it to
  all others and brings the whole into its regular form (`Lockfile.upsert_of_not_mem`). Both keep a
  lockfile `Lockfile.Ordered`, and neither makes a name occur twice (`Lockfile.nodup_upsert`).
* `Lockfile.upsert_sorted_map`: as long as clean entries are recorded, to look up a lesson gives the
  entry that was recorded last for it, whatever lies between.
-/

namespace LessonLang

namespace LockedLesson

/-- No field but the name has white space around it. -/
structure Trimmed (e : LockedLesson) : Prop where
  version : e.version.trim = e.version
  source : e.source.trim = e.source
  checksum : e.checksum.trim = e.checksum

/-- An entry with its key as name. -/
def keyed (e : LockedLesson) : LockedLesson := { e with name := keyOf e.name }

variable {e : LockedLesson}

/-- A normal entry is trimmed. -/
lemma trimmed_normalize (e : LockedLesson) : e.normalize.Trimmed :=
  ⟨Text.trim_trim _, Text.trim_trim _, Text.trim_trim _⟩

lemma Trimmed.normalize (h : e.Trimmed) : e.normalize = e.keyed := by
  rw [LockedLesson.normalize, h.version, h.source, h.checksum, keyed]

lemma Trimmed.keyed (h : e.Trimmed) : e.keyed.Trimmed := ⟨h.version, h.source, h.checksum⟩

/-- What normalising leaves alone is trimmed. -/
lemma trimmed_of_normalize (h : e.normalize = e) : e.Trimmed := h ▸ e.trimmed_normalize

end LockedLesson

namespace Lockfile

open LockedLesson (Trimmed)

variable {l : Lockfile} {e : LockedLesson}

/-- The names of the entries. -/
def names (l : Lockfile) : List Text := l.entries.map (·.name)

/-- Records several lessons, one after the other. -/
def recordAll (l : Lockfile) (es : List LockedLesson) : Lockfile := es.foldl upsert l

/-- **Where recording starts**: at a new lockfile or at one that was read. -/
inductive Opened : Lockfile → Prop where
  | new (now root tool path : Text) : Opened { new now root tool with path }
  | ofText {path content : Text} {l : Lockfile} (h : ofText path content = .ok l) : Opened l

/-! ### The two ways of recording -/

/-- An entry is found by its name. -/
lemma any_iff_mem_names (key : Text) :
    (l.entries.any fun x => x.name == key) = true ↔ key ∈ l.names := by
  simp [names]

/-- An entry takes the place of the first one with its name. -/
lemma upsert_of_mem (h : keyOf e.name ∈ l.names) :
    ∃ before x after, l.lessons = before ++ some x :: after ∧ x.name = keyOf e.name
      ∧ (∀ y ∈ before.filterMap id, y.name ≠ keyOf e.name)
      ∧ l.upsert e = { l with lessons := before ++ some e.keyed :: after } := by
  have hany := (any_iff_mem_names _).mpr h
  obtain ⟨before, x, after, hlessons, hx, hbefore, hreplace⟩ := exists_replaceFirst (e := e.keyed) hany
  refine ⟨before, x, after, hlessons, hx, hbefore, ?_⟩
  rw [← hreplace]
  exact if_pos hany

/-- An entry under a name of its own is added, and the whole brought into its regular form. -/
lemma upsert_of_not_mem (h : keyOf e.name ∉ l.names) :
    l.upsert e = normalize { l with lessons := l.lessons ++ [some e.keyed] } :=
  if_neg fun hany => h ((any_iff_mem_names _).mp hany)

lemma entries_append (l : Lockfile) (e : LockedLesson) :
    entries { l with lessons := l.lessons ++ [some e] } = l.entries ++ [e] := by
  simp [entries]

/-- The entries around one of them. -/
lemma entries_around {before after : List (Option LockedLesson)} {x : LockedLesson}
    (h : l.lessons = before ++ some x :: after) :
    l.entries = before.filterMap id ++ x :: after.filterMap id := by
  rw [entries, h, List.filterMap_append]
  rfl

/-! ### The names -/

/-- Normalising brings the names into their form and order. -/
lemma names_normalize (l : Lockfile) : l.normalize.names.Perm (l.names.map keyOf) := by
  have hsort : (sort (l.entries.map LockedLesson.normalize)).Perm
      (l.entries.map LockedLesson.normalize) := List.mergeSort_perm _ _
  rw [names, entries_normalize, names, List.map_map]
  simpa [List.map_map, Function.comp_def] using hsort.map (·.name)

/-- To replace an entry changes no name. -/
lemma names_upsert_of_mem (h : keyOf e.name ∈ l.names) : (l.upsert e).names = l.names := by
  obtain ⟨before, x, after, hlessons, hx, -, hupsert⟩ := upsert_of_mem h
  rw [names, names, entries_around hlessons, hupsert, entries_around rfl]
  simp [LockedLesson.keyed, hx]

/-- A new entry adds its name. -/
lemma names_upsert_of_not_mem (hl : l.Keyed) (h : keyOf e.name ∉ l.names) :
    (l.upsert e).names.Perm (keyOf e.name :: l.names) := by
  have hkeys : l.names.map keyOf = l.names := by
    rw [names, List.map_map]
    exact List.map_congr_left hl
  have hnames : names { l with lessons := l.lessons ++ [some e.keyed] }
      = l.names ++ [keyOf e.name] := by
    rw [names, entries_append, List.map_append]
    rfl
  rw [upsert_of_not_mem h]
  refine (names_normalize _).trans ?_
  rw [hnames, List.map_append, hkeys, List.map_singleton, keyOf_keyOf]
  exact List.perm_append_singleton _ _

/-- **No name comes to occur twice.** -/
lemma nodup_upsert (hl : l.Keyed) (h : l.names.Nodup) (e : LockedLesson) :
    (l.upsert e).names.Nodup := by
  by_cases he : keyOf e.name ∈ l.names
  · rwa [names_upsert_of_mem he]
  · exact (names_upsert_of_not_mem hl he).nodup_iff.mpr (List.nodup_cons.mpr ⟨he, h⟩)

/-- No name comes to stand twice. -/
lemma nodup_recordAll (hl : l.Keyed) (h : l.names.Nodup) (es : List LockedLesson) :
    (l.recordAll es).names.Nodup := by
  have hboth : (l.recordAll es).Keyed ∧ (l.recordAll es).names.Nodup :=
    List.foldlRecOn (motive := fun l : Lockfile => l.Keyed ∧ l.names.Nodup) es _ ⟨hl, h⟩
      fun _ hl e _ => ⟨keyed_upsert hl.1 e, nodup_upsert hl.1 hl.2 e⟩
  exact hboth.2

/-! ### Ordered lockfiles -/

/-- **Ordered lockfiles**: no entry is missing, all names are keys, and they are in order. -/
structure Ordered (l : Lockfile) : Prop where
  full : none ∉ l.lessons
  keyed : l.Keyed
  sorted : l.names.Pairwise (· ≤ ·)

/-- A normal lockfile is in order. -/
lemma ordered_normalize (l : Lockfile) : l.normalize.Ordered where
  full := by simp [normalize]
  keyed := keyed_normalize l
  sorted := by
    rw [names, entries_normalize]
    exact List.pairwise_map.mpr (pairwise_sort _)

/-- It stays so when an entry is recorded. -/
lemma Ordered.upsert (h : l.Ordered) (e : LockedLesson) : (l.upsert e).Ordered := by
  by_cases he : keyOf e.name ∈ l.names
  · refine ⟨?_, keyed_upsert h.keyed e, by rw [names_upsert_of_mem he]; exact h.sorted⟩
    obtain ⟨before, x, after, hlessons, -, -, hupsert⟩ := upsert_of_mem he
    have hfull := h.full
    rw [hlessons] at hfull
    rw [hupsert]
    simpa using hfull
  · rw [upsert_of_not_mem he]
    exact ordered_normalize _

lemma Opened.ordered (h : l.Opened) : l.Ordered := by
  cases h with
  | new =>
      exact { full := by simp [Lockfile.new]
              keyed := by simp [Keyed, entries, Lockfile.new]
              sorted := by simp [names, entries, Lockfile.new] }
  | ofText h =>
      obtain ⟨l', rfl⟩ := exists_of_ofText h
      exact ordered_normalize l'

/-- **Recording keeps a lockfile ordered**, over any number of entries. -/
lemma Ordered.recordAll (h : l.Ordered) (es : List LockedLesson) : (l.recordAll es).Ordered :=
  List.foldlRecOn es _ h fun _ h e _ => h.upsert e

/-! ### Clean lockfiles -/

/-- No entry has white space around a field. -/
def Clean (l : Lockfile) : Prop := ∀ e ∈ l.entries, e.Trimmed

/-- A normal lockfile is clean. -/
lemma clean_normalize (l : Lockfile) : l.normalize.Clean :=
  fun _ he => LockedLesson.trimmed_of_normalize (normalize_of_mem he)

/-- It stays so when a trimmed entry is recorded. -/
lemma Clean.upsert (h : l.Clean) (he : e.Trimmed) : (l.upsert e).Clean := by
  by_cases hname : keyOf e.name ∈ l.names
  · obtain ⟨before, x, after, hlessons, -, -, hupsert⟩ := upsert_of_mem hname
    rw [Clean, entries_around hlessons, List.forall_mem_append, List.forall_mem_cons] at h
    rw [hupsert, Clean, entries_around rfl, List.forall_mem_append, List.forall_mem_cons]
    exact ⟨h.1, he.keyed, h.2.2⟩
  · rw [upsert_of_not_mem hname]
    exact clean_normalize _

lemma Opened.clean (h : l.Opened) : l.Clean := by
  cases h with
  | new => simp [Clean, entries, Lockfile.new]
  | ofText h =>
      obtain ⟨l', rfl⟩ := exists_of_ofText h
      exact clean_normalize l'

/-- In a clean lockfile an entry is found as it is recorded. -/
lemma Clean.recorded (h : l.Clean) (hl : l.Keyed) (name : Text) :
    l.recorded name = l.find? name := by
  rw [Lockfile.recorded]
  cases hfind : l.find? name with
  | none => rfl
  | some x =>
      have hx := List.mem_of_find?_eq_some hfind
      rw [Option.map_some, (h x hx).normalize, LockedLesson.keyed, hl x hx]

/-- **A lockfile is a sorted map.** Any clean entries are recorded in a new lockfile or in one that
was read. Then one more is found under all spellings of its name and changes nothing for other names,
all entries are there, in the order of their names, which are keys, an entry for a known name does not
add to their number, and in what was a new lockfile no two have the same name. -/
theorem upsert_sorted_map {l₀ : Lockfile} {es : List LockedLesson} {e : LockedLesson}
    (h : l₀.Opened) (hes : ∀ x ∈ es, x.Trimmed) (he : e.Trimmed) :
    (∀ n, ((l₀.recordAll es).upsert e).find? n
        = if keyOf n = keyOf e.name then some { e with name := keyOf e.name }
          else (l₀.recordAll es).find? n)
    ∧ (l₀.recordAll es).Ordered ∧ ((l₀.recordAll es).upsert e).Ordered
    ∧ (keyOf e.name ∈ (l₀.recordAll es).names →
        ((l₀.recordAll es).upsert e).lessons.length = (l₀.recordAll es).lessons.length)
    ∧ ∀ now root tool path, l₀ = { new now root tool with path } →
        (l₀.recordAll es).names.Nodup ∧ ((l₀.recordAll es).upsert e).names.Nodup := by
  have hordered : (l₀.recordAll es).Ordered := h.ordered.recordAll es
  have hclean : (l₀.recordAll es).Clean :=
    List.foldlRecOn es _ h.clean fun _ hl x hx => hl.upsert (hes x hx)
  refine ⟨fun n => ?_, hordered, hordered.upsert e, fun hname => ?_, ?_⟩
  · rw [← (hclean.upsert he).recorded (keyed_upsert hordered.keyed e), recorded_upsert hordered.keyed,
      hclean.recorded hordered.keyed, he.normalize, LockedLesson.keyed]
  · obtain ⟨before, x, after, hlessons, -, -, hupsert⟩ := upsert_of_mem hname
    rw [hupsert, hlessons]
    simp
  · rintro now root tool path rfl
    have hnames : (names { new now root tool with path }).Nodup := by
      simp [names, entries, Lockfile.new]
    have hnodup := nodup_recordAll h.ordered.keyed hnames es
    exact ⟨hnodup, nodup_upsert hordered.keyed hnodup e⟩

/-- A lockfile with two entries of one name. -/
def twofold : Lockfile where
  path := utf8 "/p/dada.lock"
  lessons := [some { name := utf8 "b", version := utf8 "1" },
    some { name := utf8 "b", version := utf8 "2" }, some { name := utf8 "c" }]

lemma ofText_twofold :
    ofText (utf8 "/p/dada.lock")
      (utf8 "lessons: [\x7bname: c\x7d, \x7bname: b, version: '1'\x7d, \x7bname: b, version: '2'\x7d]\n")
        = .ok twofold := by
  have hread : Yaml.readDocument record {}
      (utf8 "lessons: [\x7bname: c\x7d, \x7bname: b, version: '1'\x7d, \x7bname: b, version: '2'\x7d]\n")
        = .ok { lessons := [some { name := utf8 "c" },
            some { name := utf8 "b", version := utf8 "1" },
            some { name := utf8 "b", version := utf8 "2" }] } := by
    decide +kernel
  rw [ofText, hread]
  cbv

/-- The first of two entries of a name is replaced, and the lesson that was added before is found. -/
theorem upsert_sorted_map_twofold :
    ((twofold.recordAll [{ name := utf8 "a-1", version := utf8 "5" }]).upsert
          { name := utf8 " b", version := utf8 "7" }).find? (utf8 "b")
        = some { name := utf8 "b", version := utf8 "7" }
      ∧ ((twofold.recordAll [{ name := utf8 "a-1", version := utf8 "5" }]).upsert
          { name := utf8 " b", version := utf8 "7" }).find? (utf8 "a_1")
        = some { name := utf8 "a_1", version := utf8 "5" }
      ∧ ((twofold.recordAll [{ name := utf8 "a-1", version := utf8 "5" }]).upsert
          { name := utf8 " b", version := utf8 "7" }).lessons.length = 4 := by
  have hes : ∀ x ∈ [({ name := utf8 "a-1", version := utf8 "5" } : LockedLesson)], x.Trimmed := by
    intro x hx
    obtain rfl := List.mem_singleton.mp hx
    exact ⟨by decide, by decide, by decide⟩
  have he : ({ name := utf8 " b", version := utf8 "7" } : LockedLesson).Trimmed :=
    ⟨by decide, by decide, by decide⟩
  have hbefore : twofold.recordAll [{ name := utf8 "a-1", version := utf8 "5" }]
      = { twofold with
          lessons := some { name := utf8 "a_1", version := utf8 "5" } :: twofold.lessons } := by
    cbv
  obtain ⟨hfind, -, -, hlength, -⟩ := upsert_sorted_map (.ofText ofText_twofold) hes he
  rw [hbefore] at hfind hlength ⊢
  refine ⟨?_, ?_, ?_⟩
  · rw [hfind, if_pos (by decide)]
    decide
  · rw [hfind, if_neg (by decide)]
    decide
  · rw [hlength (by decide)]
    rfl

end Lockfile

end LessonLang
