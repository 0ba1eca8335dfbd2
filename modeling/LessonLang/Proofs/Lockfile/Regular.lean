import LessonLang.Proofs.Lockfile.Map

/-!
When a lockfile is in its regular form.

* An ordered lockfile with a clean head is in its regular form exactly if its entries are clean
  (`Lockfile.normalize_eq_self_iff`).
* `Lockfile.normalize_upsert_iff`: a lesson that is added leaves a lockfile in its regular form. One
  that takes the place of another does so only if no field has white space around it, for it is put
  there as it is. What is found for a lesson can lose this white space later, and nothing else.
-/

namespace LessonLang

namespace Lockfile

variable {l : Lockfile} {e : LockedLesson}

/-! ### Clean heads -/

/-- The fields of the lockfile itself are as the regular form has them. -/
structure CleanHead (l : Lockfile) : Prop where
  root : keyOf l.root = l.root
  tool : l.tool.trim = l.tool

lemma cleanHead_normalize (l : Lockfile) : l.normalize.CleanHead :=
  ⟨keyOf_keyOf l.root, Text.trim_trim l.tool⟩

lemma CleanHead.upsert (h : l.CleanHead) (e : LockedLesson) : (l.upsert e).CleanHead := by
  by_cases he : keyOf e.name ∈ l.names
  · obtain ⟨before, x, after, -, -, -, hupsert⟩ := upsert_of_mem he
    rw [hupsert]
    exact ⟨h.root, h.tool⟩
  · rw [upsert_of_not_mem he]
    exact cleanHead_normalize _

lemma Opened.cleanHead (h : l.Opened) : l.CleanHead := by
  cases h with
  | new now root tool path => exact ⟨keyOf_keyOf root, Text.trim_trim tool⟩
  | ofText h =>
      obtain ⟨l', rfl⟩ := exists_of_ofText h
      exact cleanHead_normalize l'

lemma CleanHead.recordAll (h : l.CleanHead) (es : List LockedLesson) : (l.recordAll es).CleanHead :=
  List.foldlRecOn es _ h fun _ h e _ => h.upsert e

/-! ### The regular form -/

lemma map_some_entries (h : none ∉ l.lessons) : l.entries.map some = l.lessons := by
  rw [entries]
  generalize l.lessons = ls at h ⊢
  induction ls with
  | nil => rfl
  | cons x rest ih =>
      obtain ⟨hx, hrest⟩ := not_or.mp (mt List.mem_cons.mpr h)
      obtain ⟨x, rfl⟩ := Option.ne_none_iff_exists'.mp (Ne.symm hx)
      exact congrArg (some x :: ·) (ih hrest)

/-- **An ordered lockfile is in its regular form** exactly if its entries are clean. -/
lemma normalize_eq_self_iff (h : l.Ordered) (hhead : l.CleanHead) : l.normalize = l ↔ l.Clean := by
  refine ⟨fun hl => hl ▸ clean_normalize l, fun hclean => ?_⟩
  have hentries : l.entries.map LockedLesson.normalize = l.entries := by
    refine (List.map_congr_left fun x hx => ?_).trans (List.map_id _)
    rw [(hclean x hx).normalize, LockedLesson.keyed, h.keyed x hx, id]
  have hsorted : l.sortedEntries = l.entries := by
    have hpairwise : l.entries.Pairwise fun a b => a.name ≤ b.name := List.pairwise_map.mp h.sorted
    rw [sortedEntries, hentries]
    exact sort_eq_self hpairwise
  rw [normalize, hhead.root, hhead.tool, hsorted, map_some_entries h.full]

/-- The entries but the first one of a name. -/
def besides (l : Lockfile) (name : Text) : List LockedLesson :=
  l.entries.eraseP fun x => x.name == keyOf name

lemma clean_upsert_iff (h : keyOf e.name ∈ l.names) :
    (l.upsert e).Clean ↔ e.Trimmed ∧ ∀ x ∈ l.besides e.name, x.Trimmed := by
  obtain ⟨before, x, after, hlessons, hx, hbefore, hupsert⟩ := upsert_of_mem h
  have hbesides : l.besides e.name = before.filterMap id ++ after.filterMap id := by
    rw [besides, entries_around hlessons,
      List.eraseP_append_right _ fun y hy => by simpa using hbefore y hy,
      List.eraseP_cons, beq_iff_eq.mpr hx]
    rfl
  have hkeyed : e.keyed.Trimmed ↔ e.Trimmed := ⟨fun h => ⟨h.version, h.source, h.checksum⟩, .keyed⟩
  rw [hbesides, hupsert, Clean, entries_around rfl, List.forall_mem_append, List.forall_mem_cons,
    List.forall_mem_append, hkeyed]
  exact and_left_comm

/-! ### What is found later -/

lemma find?_upsert_of_mem (h : keyOf e.name ∈ l.names) {n : Text} (hn : keyOf n ≠ keyOf e.name) :
    (l.upsert e).find? n = l.find? n := by
  obtain ⟨before, x, after, hlessons, hx, -, hupsert⟩ := upsert_of_mem h
  have hkeyed : e.keyed.name = keyOf e.name := rfl
  rw [find?, find?, entries_around hlessons, hupsert, entries_around rfl, List.find?_append,
    List.find?_append, List.find?_cons, List.find?_cons, hkeyed, hx, beq_false_of_ne (Ne.symm hn)]

lemma find?_upsert_of_not_mem (hl : l.Keyed) (h : keyOf e.name ∉ l.names) {n : Text}
    (hn : keyOf n ≠ keyOf e.name) : (l.upsert e).find? n = l.recorded n := by
  have hrecorded := recorded_upsert hl e n
  rw [if_neg hn] at hrecorded
  rw [← hrecorded, upsert_of_not_mem h, recorded_of_normalize]

/-- **To record a lesson restores the regular form if the lesson is new.** Any entries are recorded in a
new lockfile or in one that was read. Then one more leaves a lockfile in its regular form if no entry
has its name, and otherwise exactly if neither that entry nor one that stays has white space around a
field. What is found for a lesson is the same when the lockfile is written and when another lesson is
recorded, except that it loses white space: whenever the lockfile is written or a lesson added. -/
theorem normalize_upsert_iff {l₀ : Lockfile} (h : l₀.Opened) (es : List LockedLesson)
    (e : LockedLesson) :
    (keyOf e.name ∉ (l₀.recordAll es).names →
      ((l₀.recordAll es).upsert e).normalize = (l₀.recordAll es).upsert e)
    ∧ (keyOf e.name ∈ (l₀.recordAll es).names →
      (((l₀.recordAll es).upsert e).normalize = (l₀.recordAll es).upsert e
        ↔ e.Trimmed ∧ ∀ x ∈ (l₀.recordAll es).besides e.name, x.Trimmed))
    ∧ (∀ now path n, (((l₀.recordAll es).upsert e).stamp now path).find? n
        = (((l₀.recordAll es).upsert e).find? n).map LockedLesson.normalize)
    ∧ ∀ n, keyOf n ≠ keyOf e.name →
      ((l₀.recordAll es).upsert e).find? n
        = if keyOf e.name ∈ (l₀.recordAll es).names then (l₀.recordAll es).find? n
          else ((l₀.recordAll es).find? n).map LockedLesson.normalize := by
  have hordered : (l₀.recordAll es).Ordered := h.ordered.recordAll es
  have hregular : ((l₀.recordAll es).upsert e).normalize = (l₀.recordAll es).upsert e
      ↔ ((l₀.recordAll es).upsert e).Clean :=
    normalize_eq_self_iff (hordered.upsert e) ((h.cleanHead.recordAll es).upsert e)
  refine ⟨fun hnew => ?_, fun hknown => hregular.trans (clean_upsert_iff hknown), ?_, ?_⟩
  · rw [hregular, upsert_of_not_mem hnew]
    exact clean_normalize _
  · exact fun now path n => find?_stamp (keyed_upsert hordered.keyed e) now path n
  · intro n hn
    split_ifs with hknown
    · exact find?_upsert_of_mem hknown hn
    · exact find?_upsert_of_not_mem hordered.keyed hknown hn

/-- A lesson that was recorded twice, the second time with white space around its version. -/
theorem normalize_upsert_iff_twice :
    ((new [] [] []).Opened ∧ keyOf (utf8 "a") ∈ ((new [] [] []).recordAll [{ name := utf8 "a" }]).names)
      ∧ (((new [] [] []).recordAll [{ name := utf8 "a" }]).upsert
            { name := utf8 "a", version := utf8 " 2 " }).normalize
          ≠ ((new [] [] []).recordAll [{ name := utf8 "a" }]).upsert
            { name := utf8 "a", version := utf8 " 2 " } := by
  have hopened : (new [] [] []).Opened := .new [] [] [] []
  have hbefore : (new [] [] []).recordAll [{ name := utf8 "a" }]
      = { lessons := [some { name := utf8 "a" }] } := by cbv
  have hmem : keyOf (utf8 "a") ∈ ((new [] [] []).recordAll [{ name := utf8 "a" }]).names := by
    rw [hbefore]
    decide
  refine ⟨⟨hopened, hmem⟩, fun hregular => ?_⟩
  obtain ⟨-, hiff, -⟩ := normalize_upsert_iff hopened [{ name := utf8 "a" }]
    { name := utf8 "a", version := utf8 " 2 " }
  exact absurd ((hiff hmem).mp hregular).1.version (by decide)

/-- **White space that stays**: two entries are recorded under one name in a new lockfile, and the second
has white space around its version. It is found like that, and no longer like that once another lesson
is recorded or the lockfile is written. -/
theorem upsert_keeps_white_space :
    (new [] [] []).Opened
      ∧ ((new [] [] []).recordAll [{ name := utf8 "a", version := utf8 "1" },
          { name := utf8 "a", version := utf8 " 2 " }]).normalize
        ≠ (new [] [] []).recordAll [{ name := utf8 "a", version := utf8 "1" },
          { name := utf8 "a", version := utf8 " 2 " }]
      ∧ ((new [] [] []).recordAll [{ name := utf8 "a", version := utf8 "1" },
          { name := utf8 "a", version := utf8 " 2 " }]).find? (utf8 "a")
        = some { name := utf8 "a", version := utf8 " 2 " }
      ∧ (((new [] [] []).recordAll [{ name := utf8 "a", version := utf8 "1" },
          { name := utf8 "a", version := utf8 " 2 " }]).upsert { name := utf8 "b" }).find? (utf8 "a")
        = some { name := utf8 "a", version := utf8 "2" }
      ∧ (((new [] [] []).recordAll [{ name := utf8 "a", version := utf8 "1" },
          { name := utf8 "a", version := utf8 " 2 " }]).stamp [] (utf8 "/p")).find? (utf8 "a")
        = some { name := utf8 "a", version := utf8 "2" } := by
  have hrecorded : (new [] [] []).recordAll [{ name := utf8 "a", version := utf8 "1" },
      { name := utf8 "a", version := utf8 " 2 " }]
        = { lessons := [some { name := utf8 "a", version := utf8 " 2 " }] } := by cbv
  have hregular : normalize { lessons := [some { name := utf8 "a", version := utf8 " 2 " }] }
      = { lessons := [some { name := utf8 "a", version := utf8 "2" }] } := by cbv
  rw [hrecorded, hregular]
  exact ⟨.new [] [] [] [], by decide, by decide, by cbv, by cbv⟩

end Lockfile

end LessonLang
