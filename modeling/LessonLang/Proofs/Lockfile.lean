import Mathlib.Tactic
import LessonLang.Lockfile.Read
import LessonLang.Lockfile.Write
import LessonLang.Proofs.Text.Trim

/-!
What a lockfile records.

* `Lockfile.Kept` collects the lockfiles that can come about: new ones, those that were read, and what
  becomes of them when lessons are recorded and when they are written. Their names are keys
  (`Lockfile.Kept.keyed`).
* `Lockfile.recorded` is what a lockfile says of a lesson once its fields are clean. To bring a
  lockfile into its regular form changes nothing about that, although it sorts the entries
  (`Lockfile.recorded_normalize`), and to record a lesson changes it for the names of that lesson only
  (`Lockfile.recorded_upsert`).
-/

namespace LessonLang

namespace LockedLesson

@[simp]
lemma normalize_name (e : LockedLesson) : e.normalize.name = keyOf e.name := rfl

/-- There is nothing left to normalise. -/
@[simp]
lemma normalize_normalize (e : LockedLesson) : e.normalize.normalize = e.normalize := by
  simp [normalize, Text.trim_trim]

end LockedLesson

namespace Lockfile

variable {l : Lockfile}

/-- All names are keys. -/
def Keyed (l : Lockfile) : Prop := ∀ e ∈ l.entries, keyOf e.name = e.name

/-- **Lockfiles that can come about.** -/
inductive Kept : Lockfile → Prop where
  | new (now root tool path : Text) : Kept { new now root tool with path }
  | ofText {path content : Text} {l : Lockfile} (h : ofText path content = .ok l) : Kept l
  | withTool {l : Lockfile} (h : Kept l) (tool : Text) : Kept { l with tool }
  | upsert {l : Lockfile} (h : Kept l) (e : LockedLesson) : Kept (l.upsert e)
  | stamp {l : Lockfile} (h : Kept l) (now path : Text) : Kept (l.stamp now path)

/-- What a lockfile says of a lesson, with clean fields. -/
def recorded (l : Lockfile) (name : Text) : Option LockedLesson :=
  (l.find? name).map LockedLesson.normalize

/-! ### The regular form -/

/-- Entries in the order of their names. -/
def sort (es : List LockedLesson) : List LockedLesson :=
  es.mergeSort fun a b => !(b.name < a.name)

lemma sort_trans (a b c : LockedLesson) (hab : (!decide (b.name < a.name)) = true)
    (hbc : (!decide (c.name < b.name)) = true) : (!decide (c.name < a.name)) = true := by
  simp only [Bool.not_eq_true', decide_eq_false_iff_not, List.not_lt] at hab hbc ⊢
  exact List.le_trans hab hbc

lemma sort_total (a b : LockedLesson) :
    (!decide (b.name < a.name) || !decide (a.name < b.name)) = true := by
  simpa [List.not_lt] using List.le_total a.name b.name

/-- **Sorting keeps entries of equal names in their order.** -/
lemma filter_sort (es : List LockedLesson) (key : Text) :
    ((sort es).filter fun e => e.name == key) = es.filter fun e => e.name == key := by
  -- the entries of the name are in order as they are
  have hpairwise : (es.filter fun e => e.name == key).Pairwise
      fun a b => (!decide (b.name < a.name)) = true := by
    refine List.pairwise_of_forall_mem_list fun a ha b hb => ?_
    obtain rfl : a.name = key := by simpa using List.of_mem_filter ha
    have hname : b.name = a.name := by simpa using List.of_mem_filter hb
    simp [hname, List.lt_irrefl]
  have hsub : (es.filter fun e => e.name == key).Sublist (sort es) :=
    List.sublist_mergeSort sort_trans sort_total hpairwise List.filter_sublist
  have hperm : ((sort es).filter fun e => e.name == key).Perm (es.filter fun e => e.name == key) :=
    (List.mergeSort_perm es _).filter _
  symm
  refine List.Sublist.eq_of_length_le ?_ hperm.length_eq.le
  simpa using hsub.filter fun e => e.name == key

/-- The first entry of a name stays first. -/
lemma find?_sort (es : List LockedLesson) (key : Text) :
    (sort es).find? (fun e => e.name == key) = es.find? fun e => e.name == key := by
  rw [← List.head?_filter, filter_sort, List.head?_filter]

/-- Sorted entries stand in the order of their names. -/
lemma pairwise_sort (es : List LockedLesson) : (sort es).Pairwise fun a b => a.name ≤ b.name := by
  refine (List.pairwise_mergeSort sort_trans sort_total es).imp fun h => ?_
  simpa [List.not_lt] using h

/-- What is in order stays as it is. -/
lemma sort_eq_self {es : List LockedLesson} (h : es.Pairwise fun a b => a.name ≤ b.name) :
    sort es = es :=
  List.mergeSort_of_pairwise (h.imp fun hab => by simpa [List.not_lt] using hab)

/-- The entries of a normal lockfile are the normal ones, sorted. -/
lemma entries_normalize : l.normalize.entries = sort (l.entries.map LockedLesson.normalize) := by
  rw [entries, normalize, List.filterMap_map]
  exact List.filterMap_some

/-- Each of them is normal. -/
lemma normalize_of_mem {e : LockedLesson} (he : e ∈ l.normalize.entries) : e.normalize = e := by
  rw [entries_normalize, sort, List.mem_mergeSort] at he
  obtain ⟨x, -, rfl⟩ := List.mem_map.mp he
  exact x.normalize_normalize

lemma keyed_normalize (l : Lockfile) : l.normalize.Keyed := by
  intro e he
  rw [← e.normalize_name, normalize_of_mem he]

/-- **To normalise a lockfile changes nothing about what is found**, but for its form. -/
lemma find?_normalize (hl : l.Keyed) (name : Text) : l.normalize.find? name = l.recorded name := by
  have hnames : ∀ es : List LockedLesson, (∀ e ∈ es, keyOf e.name = e.name) →
      (es.map LockedLesson.normalize).find? (fun e => e.name == keyOf name)
        = (es.find? fun e => e.name == keyOf name).map LockedLesson.normalize := by
    intro es
    induction es with
    | nil => exact fun _ => rfl
    | cons e rest ih =>
        intro hes
        obtain ⟨he, hrest⟩ := List.forall_mem_cons.mp hes
        rw [List.map_cons, List.find?_cons, List.find?_cons, e.normalize_name, he, ih hrest]
        cases e.name == keyOf name <;> rfl
  rw [find?, entries_normalize, find?_sort, hnames l.entries hl]
  rfl

/-- In a lockfile in its regular form the fields are clean. -/
lemma recorded_of_normalize (l : Lockfile) (name : Text) :
    l.normalize.recorded name = l.normalize.find? name := by
  rw [recorded]
  cases h : l.normalize.find? name with
  | none => rfl
  | some e => rw [Option.map_some, normalize_of_mem (List.mem_of_find?_eq_some h)]

/-- **The regular form** says the same. -/
lemma recorded_normalize (hl : l.Keyed) (name : Text) :
    l.normalize.recorded name = l.recorded name := by
  rw [recorded_of_normalize, find?_normalize hl]

/-! ### Recording -/

/-- The first entry of a name gives its place to the new one. -/
lemma exists_replaceFirst {e : LockedLesson} {ls : List (Option LockedLesson)}
    (he : ((ls.filterMap id).any fun x => x.name == e.name) = true) :
    ∃ before x after, ls = before ++ some x :: after ∧ x.name = e.name
      ∧ (∀ y ∈ before.filterMap id, y.name ≠ e.name)
      ∧ replaceFirst e ls = before ++ some e :: after := by
  induction ls with
  | nil => exact absurd he (by simp)
  | cons x rest ih =>
      cases x with
      | none =>
          obtain ⟨before, x, after, rfl, hx, hbefore, hreplace⟩ := ih he
          exact ⟨none :: before, x, after, rfl, hx, hbefore, congrArg (none :: ·) hreplace⟩
      | some x =>
          rw [replaceFirst]
          by_cases hx : x.name = e.name
          · exact ⟨[], x, rest, rfl, hx, by simp, if_pos (beq_iff_eq.mpr hx)⟩
          · have hrest : ((rest.filterMap id).any fun x => x.name == e.name) = true := by
              simpa [hx] using he
            obtain ⟨before, y, after, rfl, hy, hbefore, hreplace⟩ := ih hrest
            refine ⟨some x :: before, y, after, rfl, hy, ?_, ?_⟩
            · exact List.forall_mem_cons.mpr ⟨hx, hbefore⟩
            · rw [if_neg (by simpa using hx), hreplace]
              rfl

/-- A replaced entry is found under its name, and the others as before. -/
lemma find?_replaceFirst {e : LockedLesson} {ls : List (Option LockedLesson)}
    (he : ((ls.filterMap id).any fun x => x.name == e.name) = true) (key : Text) :
    ((replaceFirst e ls).filterMap id).find? (fun x => x.name == key)
      = if key = e.name then some e else (ls.filterMap id).find? fun x => x.name == key := by
  obtain ⟨before, x, after, rfl, hx, hbefore, hreplace⟩ := exists_replaceFirst he
  have hfront : ∀ y : LockedLesson, (before ++ some y :: after).filterMap id
      = before.filterMap id ++ y :: after.filterMap id := fun y => List.filterMap_append
  rw [hreplace, hfront, hfront, List.find?_append, List.find?_append, List.find?_cons,
    List.find?_cons, hx]
  by_cases hkey : key = e.name
  · have hnone : ((before.filterMap id).find? fun y => y.name == key) = none :=
      List.find?_eq_none.mpr fun y hy => by simpa [hkey] using hbefore y hy
    rw [if_pos hkey, hnone, hkey, beq_self_eq_true]
    rfl
  · rw [if_neg hkey, beq_false_of_ne (Ne.symm hkey)]

lemma mem_replaceFirst {e x : LockedLesson} {ls : List (Option LockedLesson)}
    (he : ((ls.filterMap id).any fun x => x.name == e.name) = true)
    (hx : some x ∈ replaceFirst e ls) : x = e ∨ some x ∈ ls := by
  obtain ⟨before, y, after, rfl, -, -, hreplace⟩ := exists_replaceFirst he
  rw [hreplace, List.mem_append, List.mem_cons, Option.some_inj] at hx
  rw [List.mem_append, List.mem_cons]
  tauto

lemma mem_entries {e : LockedLesson} : e ∈ l.entries ↔ some e ∈ l.lessons := by
  simp [entries]

lemma keyed_upsert (hl : l.Keyed) (e : LockedLesson) : (l.upsert e).Keyed := by
  rw [upsert]
  dsimp only
  split_ifs with hany
  · intro x hx
    obtain rfl | hx := mem_replaceFirst (e := { e with name := keyOf e.name }) hany (mem_entries.mp hx)
    · exact keyOf_keyOf e.name
    · exact hl x (mem_entries.mpr hx)
  · exact keyed_normalize _

/-- **To record a lesson** changes what is said of that lesson only. -/
lemma recorded_upsert (hl : l.Keyed) (e : LockedLesson) (name : Text) :
    (l.upsert e).recorded name
      = if keyOf name = keyOf e.name then some e.normalize else l.recorded name := by
  have hnormalize : LockedLesson.normalize { e with name := keyOf e.name } = e.normalize := by
    simp [LockedLesson.normalize]
  rw [upsert]
  dsimp only
  split_ifs with hany hname hname
  · have hfind := find?_replaceFirst (e := { e with name := keyOf e.name }) hany (keyOf name)
    rw [recorded, find?, entries, hfind, if_pos hname, Option.map_some, hnormalize]
  · have hfind := find?_replaceFirst (e := { e with name := keyOf e.name }) hany (keyOf name)
    rw [recorded, find?, entries, hfind, if_neg hname]
    rfl
  all_goals
    have hentries : entries { l with lessons := l.lessons ++ [some { e with name := keyOf e.name }] }
        = l.entries ++ [{ e with name := keyOf e.name }] := by simp [entries]
    have hkeyed : Keyed { l with lessons := l.lessons ++ [some { e with name := keyOf e.name }] } := by
      intro x hx
      rw [hentries] at hx
      obtain hx | hx := List.mem_append.mp hx
      · exact hl x hx
      · obtain rfl := List.mem_singleton.mp hx
        exact keyOf_keyOf e.name
    rw [recorded_normalize hkeyed, recorded, find?, hentries, List.find?_append]
  · -- there is no other entry of that name
    have hnone : (l.entries.find? fun x => x.name == keyOf name) = none := by
      rw [List.find?_eq_none]
      intro x hx heq
      exact hany (List.any_eq_true.mpr ⟨x, hx, by rw [← hname]; exact heq⟩)
    rw [hnone, Option.none_or, List.find?_cons, hname, beq_self_eq_true]
    exact congrArg some hnormalize
  · have hne : (keyOf e.name == keyOf name) = false := by simpa using fun h => hname (Eq.symm h)
    rw [List.find?_cons, hne, List.find?_nil, Option.or_none]
    rfl

/-! ### Lockfiles that come about -/

lemma keyed_stamp (l : Lockfile) (now path : Text) : (l.stamp now path).Keyed := keyed_normalize _

/-- What is written says what was recorded. -/
lemma find?_stamp (hl : l.Keyed) (now path name : Text) :
    (l.stamp now path).find? name = l.recorded name :=
  find?_normalize (l := { l with generated := now, path }) hl name

/-- The text of a lockfile is read as the fields that were written. -/
def ReadsBack (written : Lockfile) : Prop :=
  Yaml.readDocument record {} written.toText = .ok { written with path := [] }

/-- **A lockfile that is read back** says what was written. -/
lemma exists_ofText (hl : l.Keyed) (hread : l.ReadsBack) (path : Text) :
    ∃ read, ofText path l.toText = .ok read ∧ ∀ name, read.find? name = l.recorded name := by
  refine ⟨normalize { l with path, generated := l.generated.trim }, by rw [ofText, hread]; rfl, ?_⟩
  exact find?_normalize (l := { l with path, generated := l.generated.trim }) hl

lemma exists_of_ofText {path content : Text} (h : ofText path content = .ok l) :
    ∃ l', l = normalize l' := by
  rw [ofText] at h
  cases hread : Yaml.readDocument record {} content with
  | error e =>
      rw [hread] at h
      exact absurd h (by simp [Except.map])
  | ok l' =>
      rw [hread] at h
      exact ⟨_, (Except.ok.inj h).symm⟩

/-- **The names of a lockfile that came about** are keys. -/
lemma Kept.keyed (h : l.Kept) : l.Keyed := by
  induction h with
  | new => exact fun e he => absurd he (by simp [entries, Lockfile.new])
  | ofText h =>
      obtain ⟨l', rfl⟩ := exists_of_ofText h
      exact keyed_normalize l'
  | withTool _ _ ih => exact ih
  | upsert _ e ih => exact keyed_upsert ih e
  | stamp _ now path _ => exact keyed_stamp _ now path

end Lockfile

end LessonLang
