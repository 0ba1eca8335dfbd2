import LessonLang.Disk
import LessonLang.Proofs.Path
import LessonLang.Proofs.Table

/-!
Files behind paths.

* `Disk.locate` comes to the spot of a path or nowhere (`Disk.eq_spot_of_locate`), and comes there if
  everything around the spot is a directory (`Disk.locate_clean`).
* `Disk.Grows`: directories stay directories. A path that leads somewhere keeps leading there.
* `Disk.makeDirectories` only makes directories where nothing was, at the spot of the path and around
  it (`Disk.Made`), and what was written is read back (`Disk.read_of_write`).
* What a disk refuses does not change. A place that was written to is not one where writing is refused,
  so it can be written again (`Disk.exists_write_of_write`).
-/

namespace LessonLang

namespace Disk

variable {d d' : Disk} {base path : Text} {place q : List Text}

@[simp]
lemma get?_nil (d : Disk) : d.get? [] = some .directory := rfl

lemma get?_set (d : Disk) (hplace : place ≠ []) (e : Entry) (q : List Text) :
    (d.set place e).get? q = if q = place then some e else d.get? q := by
  rw [get?, set, Table.get?_set, get?]
  cases q with
  | nil => simp [Ne.symm hplace]
  | cons a q => simp

@[simp]
lemma refusals_set (d : Disk) (place : List Text) (e : Entry) :
    (d.set place e).refusals = d.refusals := rfl

/-- Where writing is not refused for a new entry, it is not refused once the entry is there. -/
lemma barrier?_eq_none (hd : d'.refusals = d.refusals) (hthere : (d'.get? place).isSome = true)
    (h : d.barrier? place = none) : d'.barrier? place = none := by
  obtain ⟨hown, -⟩ := Option.or_eq_none_iff.mp h
  rw [barrier?, hd, hown, if_pos hthere]
  rfl

/-- What bars a place depends on what is refused and on what is there. -/
lemma barrier?_congr (hd : d'.refusals = d.refusals) (hplace : d'.get? place = d.get? place) :
    d'.barrier? place = d.barrier? place := by
  rw [barrier?, barrier?, hd, hplace]

/-- A place and all around it are directories. -/
def Holds (d : Disk) (place : List Text) : Prop := ∀ q, q <+: place → d.get? q = some .directory

/-- A place that is held up holds up the places above it. -/
lemma Holds.mono (h : d.Holds place) (hq : q <+: place) : d.Holds q :=
  fun _ hr => h _ (hr.trans hq)

lemma Holds.self (h : d.Holds place) : d.get? place = some .directory := h place List.prefix_rfl

/-- One more directory below a place that is held up is held up as well. -/
lemma holds_concat {e : Text} (h : d.Holds place) (he : d.get? (place ++ [e]) = some .directory) :
    d.Holds (place ++ [e]) := by
  intro q hq
  obtain rfl | hq := List.prefix_concat_iff.mp hq
  · exact he
  · exact h q hq

/-- **Directories stay directories.** -/
def Grows (d d' : Disk) : Prop := ∀ q, d.get? q = some .directory → d'.get? q = some .directory

lemma Grows.refl (d : Disk) : d.Grows d := fun _ h => h

lemma Grows.trans {d'' : Disk} (h : d.Grows d') (h' : d'.Grows d'') : d.Grows d'' :=
  fun q hq => h' q (h q hq)

/-- What was held up stays so. -/
lemma Grows.holds (h : d.Grows d') (hplace : d.Holds place) : d'.Holds place :=
  fun q hq => h q (hplace q hq)

/-- To put something where no directory stands loses no directory. -/
lemma grows_set (hq : d.get? place ≠ some .directory) (e : Entry) : d.Grows (d.set place e) := by
  have hne : place ≠ [] := by
    rintro rfl
    exact hq rfl
  intro q hdir
  rw [get?_set d hne]
  split_ifs with heq
  · exact absurd (heq ▸ hdir) hq
  · exact hdir

/-! ### Following paths -/

/-- A path can be followed by one element where there is a directory. -/
lemma follow_ok_iff {e : Text} {r : List Text} :
    d.follow place e = .ok r ↔ d.get? place = some .directory ∧ r = Path.advance place e := by
  rw [follow]
  cases h : d.get? place with
  | none => simp
  | some entry =>
      cases entry with
      | file content => simp
      | directory =>
          dsimp only
          rw [Path.advance]
          split_ifs <;> simp [eq_comm]

lemma foldlM_follow_cons {e : Text} {es r : List Text} :
    (e :: es).foldlM d.follow place = .ok r
      ↔ d.get? place = some .directory ∧ es.foldlM d.follow (Path.advance place e) = .ok r := by
  rw [List.foldlM_cons]
  cases h : d.follow place e with
  | error f =>
      have hdir : d.get? place ≠ some .directory := fun hdir => by
        rw [follow_ok_iff.mpr ⟨hdir, rfl⟩] at h
        exact absurd h (by simp)
      simp [hdir, bind, Except.bind]
  | ok r' =>
      obtain ⟨hdir, rfl⟩ := follow_ok_iff.mp h
      simp [hdir, bind, Except.bind]

/-- What is followed on the disk leads where it would lead without a look at files. -/
lemma eq_foldl_of_foldlM {es r : List Text} (h : es.foldlM d.follow place = .ok r) :
    r = es.foldl Path.advance place := by
  induction es generalizing place with
  | nil => exact (Except.ok.inj h).symm
  | cons e es ih => exact ih (foldlM_follow_cons.mp h).2

/-- What can be followed can still be followed when directories are added. -/
lemma Grows.foldlM (hg : d.Grows d') {es r : List Text} (h : es.foldlM d.follow place = .ok r) :
    es.foldlM d'.follow place = .ok r := by
  induction es generalizing place with
  | nil => exact h
  | cons e es ih =>
      obtain ⟨hdir, hrest⟩ := foldlM_follow_cons.mp h
      exact foldlM_follow_cons.mpr ⟨hg _ hdir, ih hrest⟩

/-- Names can be followed if there are directories at all but the last. -/
lemma foldlM_follow_names {ns : List Text} (hns : ∀ e ∈ ns, Path.IsName e) :
    ns.foldlM d.follow place = .ok (place ++ ns)
      ↔ ∀ q, q <+: ns → q ≠ ns → d.get? (place ++ q) = some .directory := by
  induction ns generalizing place with
  | nil => simp [pure, Except.pure]
  | cons e ns ih =>
      obtain ⟨he, hrest⟩ := List.forall_mem_cons.mp hns
      have hplace : place ++ e :: ns = (place ++ [e]) ++ ns := by simp
      rw [foldlM_follow_cons, Path.advance_of_isName he, hplace, ih hrest]
      constructor
      · rintro ⟨hdir, hall⟩ q hq hne
        cases q with
        | nil => simpa using hdir
        | cons f q =>
            obtain ⟨rfl, hq⟩ := List.cons_prefix_cons.mp hq
            have hnames : q <+: ns := by assumption
            simpa using hall q hnames fun h => hne (by rw [h])
      · intro hall
        refine ⟨by simpa using hall [] List.nil_prefix (by simp), fun q hq hne => ?_⟩
        simpa using hall (e :: q) (List.cons_prefix_cons.mpr ⟨rfl, hq⟩) (by simpa using hne)

/-- Steps up lead through directories. -/
lemma foldlM_follow_above (h : d.Holds place) (k : Nat) :
    ∃ r, (List.replicate k Path.above).foldlM d.follow place = .ok r ∧ r <+: place := by
  induction k generalizing place with
  | zero => exact ⟨place, rfl, List.prefix_rfl⟩
  | succ k ih =>
      have hprefix : place.dropLast <+: place := List.dropLast_prefix place
      obtain ⟨r, hr, hpre⟩ := ih (h.mono hprefix)
      exact ⟨r, foldlM_follow_cons.mpr ⟨h.self, hr⟩, hpre.trans hprefix⟩

/-- A path is located from the root or from the directory that it starts at. -/
lemma locate_eq (d : Disk) (base : Text) {path : Text} (hb : Path.isAbsolute base = true)
    (hp : path ≠ []) :
    d.locate base path = (Path.elements path).foldlM d.follow (Path.origin base path) := by
  rw [locate, if_neg (by simpa using hp), Path.origin, Path.cleanElements_of_absolute hb]

/-- **A path leads to its spot** or nowhere. -/
lemma eq_spot_of_locate (hb : Path.isAbsolute base = true) (h : d.locate base path = .ok place) :
    path ≠ [] ∧ place = Path.spot base path := by
  have hp : path ≠ [] := by
    rintro rfl
    exact absurd h (by simp [locate])
  rw [locate_eq d base hb hp] at h
  exact ⟨hp, by rw [eq_foldl_of_foldlM h, Path.spot_eq hb, Path.walk]⟩

/-- A path is located where it was when directories are added. -/
lemma Grows.locate (hg : d.Grows d') (h : d.locate base path = .ok place) :
    d'.locate base path = .ok place := by
  rw [Disk.locate] at h ⊢
  by_cases hempty : path.isEmpty = true
  · rw [if_pos hempty] at h
    exact absurd h (by simp)
  · rw [if_neg hempty] at h ⊢
    exact hg.foldlM h

lemma foldlM_follow_nil (h : d.get? place = some .directory) (es : List Text) :
    ([] :: es).foldlM d.follow place = es.foldlM d.follow place := by
  rw [List.foldlM_cons, follow_ok_iff.mpr ⟨h, rfl⟩]
  rfl

/-- A clean path is followed along its clean elements. -/
lemma foldlM_elements_clean (path : Text) (h : d.get? place = some .directory) :
    (Path.elements (Path.clean path)).foldlM d.follow place
      = (Path.cleanElements path).foldlM d.follow place := by
  have hnames := (Path.cleaned path).1.ne_nil
  have hjoin : ∀ es : List Text, es ≠ [] → (∀ e ∈ es, Path.slash ∉ e) →
      (Path.elements (Text.join [Path.slash] es)).foldlM d.follow place
        = es.foldlM d.follow place := fun es hne hes => by
    rw [Path.elements, Text.split_join hne hes]
  have hnil : (Path.elements []).foldlM d.follow place = .ok place := foldlM_follow_nil h []
  cases hes : Path.cleanElements path with
  | nil =>
      rw [Path.clean, hes]
      split_ifs with habs hempty
      · rw [Path.elements, Text.split_cons_sep, foldlM_follow_nil h]
        exact hnil
      · have hhere : Path.elements Path.here = [Path.here] := by decide
        rw [hhere]
        exact foldlM_follow_cons.mpr ⟨h, rfl⟩
      · exact absurd rfl hempty
  | cons e es =>
      rw [hes] at hnames
      have hne : e :: es ≠ [] := by simp
      have hslash := fun f hf => (hnames f hf).2
      rw [Path.clean, hes]
      split_ifs with habs hempty
      · rw [Path.elements, Text.split_cons_sep, foldlM_follow_nil h]
        exact hjoin _ hne hslash
      · have hsplit := Text.split_join hne hslash
        rw [List.isEmpty_iff.mp hempty] at hsplit
        exact absurd (List.cons.inj hsplit).1.symm (hnames e (by simp)).1
      · exact hjoin _ hne hslash

/-- **A clean path leads to its spot** if everything around that is a directory. -/
lemma locate_clean (hb : Path.isAbsolute base = true) (hbase : d.Holds (Path.walk [] base))
    (hspot : ∀ q, q <+: Path.spot base path → q ≠ Path.spot base path →
      d.get? q = some .directory) :
    d.locate base (Path.clean path) = .ok (Path.spot base path) := by
  have horigin : d.Holds (Path.origin base path) := by
    rw [Path.origin]
    split_ifs
    · intro q hq
      rw [List.prefix_nil.mp hq, get?_nil]
    · exact hbase
  obtain ⟨⟨k, ns, hes, hns, -⟩, hwalk⟩ := Path.cleaned path
  obtain ⟨r, hr, -⟩ := foldlM_follow_above horigin k
  have hplace : Path.spot base path = r ++ ns := by
    rw [Path.spot_eq hb, ← hwalk _ fun h => by rw [Path.origin, if_pos h], hes, List.foldl_append,
      ← eq_foldl_of_foldlM hr, Path.foldl_advance_names hns]
  rw [hplace] at hspot ⊢
  rw [locate_eq d base hb (Path.clean_ne_nil path), Path.origin, Path.isAbsolute_clean,
    ← Path.origin, foldlM_elements_clean path horigin.self, hes, List.foldlM_append, hr]
  refine (foldlM_follow_names hns).mpr fun q hq hqn => hspot (r ++ q) ?_ ?_
  · exact (List.prefix_append_right_inj r).mpr hq
  · simpa using hqn

/-- The same for the path from the root. -/
lemma locate_absolute (hb : Path.isAbsolute base = true) (hbase : d.Holds (Path.walk [] base))
    (hspot : ∀ q, q <+: Path.spot base path → q ≠ Path.spot base path →
      d.get? q = some .directory) :
    d.locate base (Path.absolute base path) = .ok (Path.spot base path) := by
  rw [← Path.spot_absolute hb] at hspot
  rw [← Path.clean_absolute hb, locate_clean hb hbase hspot, Path.spot_absolute hb]

/-- **A path from the root that leads somewhere** passes directories. -/
lemma directory_of_locate_absolute (hb : Path.isAbsolute base = true)
    (h : d.locate base (Path.absolute base path) = .ok place) (hq : q <+: Path.spot base path)
    (hne : q ≠ Path.spot base path) : d.get? q = some .directory := by
  have habs := Path.isAbsolute_absolute hb path
  have hnames := Path.isName_of_mem_spot hb path
  rw [locate_eq d base hb (Path.ne_nil_of_isAbsolute habs), Path.origin, if_pos habs,
    ← Path.clean_absolute hb, foldlM_elements_clean _ d.get?_nil] at h
  have hplace := eq_foldl_of_foldlM h
  change _ = (Path.spot base path).foldl Path.advance [] at hplace
  rw [Path.foldl_advance_names hnames] at hplace
  exact (foldlM_follow_names hnames).mp (hplace ▸ h) q hq hne

/-! ### Making directories -/

/-- **Directories are made where nothing was**, at a place or around it. -/
def Made (d d' : Disk) (place : List Text) : Prop :=
  ∀ q, d'.get? q = d.get? q ∨ d.get? q = none ∧ d'.get? q = some .directory ∧ q <+: place

/-- To make directories loses none. -/
lemma Made.grows (h : d.Made d' place) : d.Grows d' := by
  intro q hq
  obtain heq | ⟨hnone, -⟩ := h q
  · rw [heq, hq]
  · rw [hnone] at hq
    exact absurd hq (by simp)

/-- **Directories are made below a place**, one inside the other, and all of them are there then. -/
lemma makeBelow_ok {es : List Text} (h : d.makeBelow place es = .ok d') :
    d.Made d' (place ++ es) ∧ (d.Holds place → d'.Holds (place ++ es)) := by
  induction es generalizing d place with
  | nil =>
      obtain rfl := Except.ok.inj h
      exact ⟨fun q => Or.inl rfl, by simp⟩
  | cons e es ih =>
      have hplace : place ++ e :: es = (place ++ [e]) ++ es := by simp
      rw [makeBelow] at h
      rw [hplace]
      split at h
      · exact absurd h (by simp)
      · rename_i hdir
        obtain ⟨hmade, hholds⟩ := ih h
        exact ⟨hmade, fun hd => hholds (holds_concat hd hdir)⟩
      · exact absurd h (by simp)
      · rename_i hnone _
        obtain ⟨hmade, hholds⟩ := ih h
        have hne : place ++ [e] ≠ [] := by simp
        have hset := get?_set d hne .directory
        refine ⟨fun q => ?_, fun hd => hholds (holds_concat (Grows.holds ?_ hd) ?_)⟩
        · obtain heq | hmade := hmade q
          · rw [heq, hset]
            split_ifs with hq
            · rw [hq]
              exact Or.inr ⟨hnone, rfl, List.prefix_append _ es⟩
            · exact Or.inl rfl
          · rw [hset] at hmade
            split_ifs at hmade with hq
            · exact absurd hmade.1 (by simp)
            · exact Or.inr hmade
        · exact grows_set (by simp [hnone]) _
        · simp [hset]

/-- To make directories changes nothing about what is refused. -/
lemma refusals_of_makeBelow {es : List Text} (h : d.makeBelow place es = .ok d') :
    d'.refusals = d.refusals := by
  induction es generalizing d place with
  | nil =>
      obtain rfl := Except.ok.inj h
      rfl
  | cons e es ih =>
      rw [makeBelow] at h
      split at h
      · exact absurd h (by simp)
      · exact ih h
      · exact absurd h (by simp)
      · exact (ih h).trans (refusals_set d _ _)

/-- To make directories changes nothing about what is refused. -/
lemma refusals_of_makeDirectories (h : d.makeDirectories base path = .ok d') :
    d'.refusals = d.refusals := by
  rw [makeDirectories] at h
  split at h
  · rename_i d'' hmake
    obtain rfl := Except.ok.inj h
    exact refusals_of_makeBelow hmake
  · exact absurd h (by simp)

/-- **Directories are made** at the spot of a path and around it. -/
lemma makeDirectories_ok (h : d.makeDirectories base path = .ok d') :
    d.Made d' (Path.spot base path) ∧ d'.Holds (Path.spot base path) := by
  rw [makeDirectories] at h
  split at h
  · rename_i d'' hmake
    obtain rfl := Except.ok.inj h
    obtain ⟨hmade, hholds⟩ := makeBelow_ok hmake
    exact ⟨hmade, hholds fun q hq => by rw [List.prefix_nil.mp hq, get?_nil]⟩
  · exact absurd h (by simp)

/-! ### Writing and reading -/

/-- **When a file is written**: the path leads to a place without a directory where writing is not
refused. -/
lemma write_ok_iff {content : Text} :
    d.write base path content = .ok d'
      ↔ ∃ place, d.locate base path = .ok place ∧ d.get? place ≠ some .directory
          ∧ d.barrier? place = none ∧ d' = d.set place (.file content) := by
  rw [write]
  cases d.locate base path with
  | error f => simp
  | ok place =>
      dsimp only
      split
      next hdir => simp [hdir]
      next hbarrier _ => simp [hbarrier]
      next hbarrier hfile =>
        have hne : d.get? place ≠ some .directory := hfile
        simp [hne, hbarrier, eq_comm (a := d')]

/-- **Writing is refused** at a place without a directory that has a barrier. -/
lemma write_refused {content reason : Text} (hlocate : d.locate base path = .ok place)
    (hplace : d.get? place ≠ some .directory) (hbarrier : d.barrier? place = some reason) :
    d.write base path content = .error ⟨.opening, path, .refused reason⟩ := by
  rw [write, hlocate]
  dsimp only
  rw [hbarrier]
  split
  next hdir => exact absurd hdir hplace
  next h _ => rw [Option.some.inj h]
  next h _ => exact absurd h (by simp)

/-- What can be read is a file at the place of its path. -/
lemma exists_of_read {content : Text} (h : d.read base path = .ok content) :
    ∃ place, d.locate base path = .ok place ∧ d.get? place = some (.file content) := by
  rw [read, entry] at h
  cases hlocate : d.locate base path with
  | error f =>
      rw [hlocate] at h
      exact absurd h (by simp)
  | ok place =>
      rw [hlocate] at h
      refine ⟨place, rfl, ?_⟩
      rcases hentry : d.get? place with _ | (content' | _)
      all_goals
        simp only [hentry] at h
        cases h
      rfl

/-- What is found under a path is what stands at its place. -/
lemma entry_of_locate (h : d.locate base path = .ok place) :
    d.entry base path = (d.get? place).elim (.error .missing) .ok := by
  rw [entry, h]
  cases hentry : d.get? place <;> simp [hentry]

/-- **What was written is read back.** -/
lemma read_of_write {content : Text} (h : d.write base path content = .ok d') :
    d'.read base path = .ok content := by
  obtain ⟨place, hlocate, hplace, -, rfl⟩ := write_ok_iff.mp h
  have hne : place ≠ [] := by
    rintro rfl
    exact hplace rfl
  rw [read, entry, (grows_set hplace _).locate hlocate]
  simp [get?_set d hne]

/-- **What was written can be written again.** -/
lemma exists_write_of_write {content : Text} (h : d.write base path content = .ok d')
    (content' : Text) : ∃ d'', d'.write base path content' = .ok d'' := by
  obtain ⟨place, hlocate, hplace, hbarrier, rfl⟩ := write_ok_iff.mp h
  have hne : place ≠ [] := by
    rintro rfl
    exact hplace rfl
  have hthere : (d.set place (.file content)).get? place = some (.file content) := by
    rw [get?_set d hne, if_pos rfl]
  refine ⟨_, write_ok_iff.mpr ⟨place, (grows_set hplace _).locate hlocate, ?_, ?_, rfl⟩⟩
  · simp [hthere]
  · exact barrier?_eq_none (refusals_set d place _) (by simp [hthere]) hbarrier

end Disk

end LessonLang
