import LessonLang.Proofs.Manifest

/-!
The targets of a manifest, as a table and as a list.

* `Manifest.Indexes m es` says that the table and the order of `m` agree on the entries `es` of a file:
  of the entries with one key the first counts, and the keys are listed as they first occur. Every entry
  that is added keeps them in agreement (`Manifest.Indexes.addTarget`).
* `Manifest.findTarget?_of_key`: a name whose key is in the table is found under that key. Names that are
  the same up to letter case are then not looked at.
* `Manifest.targets_agree` puts this together for the manifest of any file.
-/

namespace LessonLang

namespace ManifestFields

/-- **The entry that counts under a key**: the first whose name has that key. -/
def first? (f : ManifestFields) (key : Text) : Option (Text × TargetFields) :=
  f.targets.find? fun e => keyOf e.1 == key

end ManifestFields

namespace Manifest

variable {m : Manifest} {es : List (Text × TargetFields)}

/-- **What becomes of an entry**, field by field. -/
lemma ofFields_eq (e : Text × TargetFields) :
    Target.ofFields e.1 e.2
      = { name := keyOf e.1, label := e.1.trim, main := e.2.main.trim, inputs := e.2.inputs,
          lesson := keyOf e.2.lesson } := by
  rw [← name_ofFields e]
  rfl

/-! ### The table and the order -/

/-- One more key is listed unless it was there. -/
lemma eraseDups_concat (keys : List Text) (key : Text) :
    (keys ++ [key]).eraseDups = if key ∈ keys then keys.eraseDups else keys.eraseDups ++ [key] := by
  rw [List.eraseDups_append]
  split_ifs with hkey
  · rw [show [key].removeAll keys = [] by simp [List.removeAll, hkey], List.eraseDups_nil,
      List.append_nil]
  · rw [show [key].removeAll keys = [key] by simp [List.removeAll, hkey]]
    rfl

lemma nodup_eraseDups (keys : List Text) : keys.eraseDups.Nodup := by
  induction keys using List.reverseRecOn with
  | nil => exact List.nodup_nil
  | append_singleton keys key ih =>
      rw [eraseDups_concat]
      split_ifs with hkey
      · exact ih
      · refine List.nodup_append.mpr ⟨ih, List.nodup_singleton key, fun k hk last hlast => ?_⟩
        obtain rfl := List.mem_singleton.mp hlast
        exact ne_of_mem_of_not_mem (List.mem_eraseDups.mp hk) hkey

/-- **A manifest indexes entries**: its order lists their keys as they first occur, and its table has
the first entry of each key. -/
structure Indexes (m : Manifest) (es : List (Text × TargetFields)) : Prop where
  order : m.order = (es.map fun e => keyOf e.1).eraseDups
  get? : ∀ key, m.targets.get? key
    = (es.find? fun e => keyOf e.1 == key).map fun e => Target.ofFields e.1 e.2

lemma Indexes.has_iff (h : m.Indexes es) (key : Text) :
    m.targets.has key = true ↔ ∃ e ∈ es, keyOf e.1 = key := by
  rw [Table.has, h.get? key, Option.isSome_map, List.find?_isSome]
  simp

lemma Indexes.addTarget (h : m.Indexes es) (e : Text × TargetFields) :
    (m.addTarget e).Indexes (es ++ [e]) := by
  cases hnew : m.targets.has (keyOf e.1)
  · have habsent : ∀ d ∈ es, keyOf d.1 ≠ keyOf e.1 := by
      intro d hd hkey
      rw [(h.has_iff _).mpr ⟨d, hd, hkey⟩] at hnew
      exact absurd hnew (by simp)
    rw [addTarget_of_not_has hnew]
    refine ⟨?_, fun key => ?_⟩
    · rw [List.map_append, List.map_singleton, eraseDups_concat, if_neg (by simpa using habsent),
        h.order]
    · rw [Table.get?_set, h.get? key, List.find?_append]
      by_cases hkey : key = keyOf e.1
      · have hnone : (es.find? fun d => keyOf d.1 == key) = none :=
          List.find?_eq_none.mpr fun d hd => by simpa [hkey] using habsent d hd
        simp [hkey ▸ hnone, hkey]
      · simp [hkey, Ne.symm hkey]
  · obtain ⟨d, hd, hkey⟩ := (h.has_iff _).mp hnew
    rw [addTarget_of_has hnew]
    refine ⟨?_, fun key => ?_⟩
    · rw [List.map_append, List.map_singleton, eraseDups_concat,
        if_pos (List.mem_map.mpr ⟨d, hd, hkey⟩), h.order]
    · rw [h.get? key, List.find?_append]
      by_cases he : keyOf e.1 = key
      · obtain ⟨first, hfirst⟩ := Option.isSome_iff_exists.mp
          (List.find?_isSome (p := fun d : Text × TargetFields => keyOf d.1 == key).mpr
            ⟨d, hd, by simp [hkey, he]⟩)
        simp [hfirst]
      · simp [he]

/-- **The manifest of a file** indexes its targets. -/
lemma indexes_ofFields (path : Text) (f : ManifestFields) :
    (ofFields path f).Indexes f.targets := by
  suffices hfold : ∀ (es ds : List (Text × TargetFields)) (m : Manifest), m.Indexes ds →
      (es.foldl addTarget m).Indexes (ds ++ es) from hfold f.targets [] _ ⟨rfl, fun _ => rfl⟩
  intro es
  induction es with
  | nil => exact fun ds m h => by simpa using h
  | cons e es ih =>
      intro ds m h
      simpa using ih (ds ++ [e]) _ (h.addTarget e)

lemma Indexes.name_eq (h : m.Indexes es) {key : Text} {t : Target}
    (ht : m.targets.get? key = some t) : t.name = key ∧ t.name = keyOf t.label := by
  rw [h.get? key] at ht
  obtain ⟨e, he, rfl⟩ := Option.map_eq_some_iff.mp ht
  have hkey : keyOf e.1 = key := by simpa using List.find?_some he
  exact ⟨(name_ofFields e).trans hkey, rfl⟩

lemma Indexes.defaultTarget_eq (h : m.Indexes es) :
    m.defaultTarget = es.head?.map fun e => some (Target.ofFields e.1 e.2) := by
  rw [defaultTarget, h.order]
  cases es with
  | nil => rfl
  | cons e es =>
      rw [List.map_cons, List.eraseDups_cons, List.head?_cons, Option.map_some, h.get?]
      simp

/-! ### Looking targets up -/

/-- **A key that is there** decides what is found. -/
lemma findTarget?_of_key {query : Text} {t : Target} (ht : m.targets.get? (keyOf query) = some t) :
    m.findTarget? query = some t := by
  have hkey : keyOf query.trim = keyOf query := by rw [keyOf_eq, Text.trim_trim, ← keyOf_eq]
  rw [findTarget?, hkey, ht, Option.some_or]

lemma keyOf_padded {name query : Text} (h : name.Padded query) : keyOf query = keyOf name := by
  rw [keyOf_eq, h.trim_eq, ← keyOf_eq]

/-- **The table of the targets and their order agree.** For the manifest of any file, the order has no
key twice and lists exactly the keys of the table, as they first occur in the file. Under a key stands
the target of the first entry whose name has that key: that name without white space around is its
label, and its own name is the key of this label; its program is the path of the entry without white
space around, its inputs are those of the entry, and its lesson is the key of the one that the entry
names. The default target is that of the first entry. Whoever asks for a target by the name of any
entry, or by the key or the label of what is kept of it, with any white space around, gets what stands
under the key of that entry. -/
theorem targets_agree (path : Text) (f : ManifestFields) :
    (ofFields path f).order.Nodup
    ∧ (ofFields path f).order = (f.targets.map fun e => keyOf e.1).eraseDups
    ∧ (∀ key, key ∈ (ofFields path f).order ↔ key ∈ (ofFields path f).targets.keys)
    ∧ (∀ key, (ofFields path f).targets.get? key = (f.first? key).map fun e =>
        { name := key, label := e.1.trim, main := e.2.main.trim, inputs := e.2.inputs,
          lesson := keyOf e.2.lesson })
    ∧ (∀ key t, (ofFields path f).targets.get? key = some t → t.name = keyOf t.label)
    ∧ (ofFields path f).defaultTarget = f.targets.head?.map (fun e => some
        { name := keyOf e.1, label := e.1.trim, main := e.2.main.trim, inputs := e.2.inputs,
          lesson := keyOf e.2.lesson })
    ∧ ∀ e ∈ f.targets, ∃ t, (ofFields path f).targets.get? (keyOf e.1) = some t
        ∧ ∀ name ∈ [e.1, t.name, t.label], ∀ query, Text.Padded name query →
          (ofFields path f).findTarget? query = some t := by
  have h := indexes_ofFields path f
  refine ⟨?_, h.order, fun key => ?_, fun key => ?_, fun key t ht => (h.name_eq ht).2, ?_,
    fun e he => ?_⟩
  · rw [h.order]
    exact nodup_eraseDups _
  · rw [← Table.has_iff_mem_keys]
    exact (listed_ofFields path f key).symm
  · rw [h.get? key, ← ManifestFields.first?]
    cases hfirst : f.first? key with
    | none => rfl
    | some e =>
        have hkey : keyOf e.1 = key := by simpa using List.find?_some hfirst
        rw [Option.map_some, Option.map_some, ofFields_eq, hkey]
  · simp only [h.defaultTarget_eq, ofFields_eq]
  · obtain ⟨t, ht⟩ := Option.isSome_iff_exists.mp ((h.has_iff (keyOf e.1)).mpr ⟨e, he, rfl⟩)
    obtain ⟨hname, hlabel⟩ := h.name_eq ht
    refine ⟨t, ht, fun name hmem query hquery => ?_⟩
    -- all three names have the key of the entry
    have hkey : keyOf name = keyOf e.1 := by
      simp only [List.mem_cons, List.not_mem_nil, or_false] at hmem
      obtain rfl | rfl | rfl := hmem
      · rfl
      · rw [hname, keyOf_keyOf]
      · rw [← hlabel, hname]
    exact findTarget?_of_key (by rw [keyOf_padded hquery, hkey, ht])

/-- Three entries: the last has the key of the first, and the second is written like them up to letter
case. The first has inputs and a lesson. -/
def namesakes : ManifestFields where
  targets := [(utf8 " day-one",
      { main := utf8 "a.dada\n", inputs := [utf8 "1", utf8 " 2"], lesson := utf8 " tour-two" }),
    (utf8 "Day_One", { main := utf8 "b.dada" }),
    (utf8 "day_one", { main := utf8 "c.dada", inputs := [utf8 "3"] })]

/-- The first entry counts for the third, with all that it says, and hides no name that is written
otherwise. -/
theorem targets_agree_namesakes :
    (ofFields [] namesakes).order = [utf8 "day_one", utf8 "Day_One"]
    ∧ (ofFields [] namesakes).findTarget? (utf8 "\tday_one\n")
        = some { name := utf8 "day_one", label := utf8 "day-one", main := utf8 "a.dada",
                 inputs := [utf8 "1", utf8 " 2"], lesson := utf8 "tour_two" }
    ∧ (ofFields [] namesakes).findTarget? (utf8 " Day_One")
        = some { name := utf8 "Day_One", label := utf8 "Day_One", main := utf8 "b.dada" } := by
  obtain ⟨-, horder, -, htable, -, -, hfind⟩ := targets_agree [] namesakes
  refine ⟨horder.trans (by decide), ?_, ?_⟩
  · obtain ⟨t, ht, hquery⟩ :=
      hfind (utf8 "day_one", { main := utf8 "c.dada", inputs := [utf8 "3"] }) (by decide)
    rw [hquery (utf8 "day_one") (by simp) _ ⟨utf8 "\t", utf8 "\n", by decide, by decide, by decide⟩,
      ← ht, htable]
    decide
  · obtain ⟨t, ht, hquery⟩ := hfind (utf8 "Day_One", { main := utf8 "b.dada" }) (by decide)
    rw [hquery (utf8 "Day_One") (by simp) _ ⟨utf8 " ", [], by decide, by decide, by decide⟩, ← ht,
      htable]
    decide

end Manifest

end LessonLang
