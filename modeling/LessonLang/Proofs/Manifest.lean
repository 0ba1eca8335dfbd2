import LessonLang.Manifest.Read
import LessonLang.Proofs.Table
import LessonLang.Proofs.Text.Trim
import LessonLang.Proofs.Yaml.Yield

/-!
Manifests that are checked.

* `Lesson.WellFormed` says how a lesson should be declared, and `ManifestFields.Valid` what a manifest
  file should say. `ManifestFields.faults` lists the points in which it does not.
* `Manifest.issues_ofFields`: these are the issues of the manifest that the file describes.
* `Manifest.ofText_checked`: a manifest file is loaded exactly if it is valid, and then the program of a
  target is found unless its lesson has yet to be fetched.
-/

namespace LessonLang

/-! ### Lessons -/

namespace Lesson

variable {l : Lesson}

/-- Exactly one pin was given. -/
def PinnedOnce (l : Lesson) : Prop :=
  (l.rev ≠ [] ∧ l.tag = [] ∧ l.branch = []) ∨ (l.rev = [] ∧ l.tag ≠ [] ∧ l.branch = [])
    ∨ (l.rev = [] ∧ l.tag = [] ∧ l.branch ≠ [])

/-- No pin was given. -/
def Unpinned (l : Lesson) : Prop := l.rev = [] ∧ l.tag = [] ∧ l.branch = []

/-- **How a lesson should be declared**: in a repository and with one pin, or in a directory and
without any. -/
def WellFormed (l : Lesson) : Prop :=
  (l.git ≠ [] ∧ l.path = [] ∧ l.PinnedOnce) ∨ (l.git = [] ∧ l.path ≠ [] ∧ l.Unpinned)

instance (l : Lesson) : Decidable l.PinnedOnce := inferInstanceAs (Decidable (_ ∨ _))

instance (l : Lesson) : Decidable l.Unpinned := inferInstanceAs (Decidable (_ ∧ _))

instance (l : Lesson) : Decidable l.WellFormed := inferInstanceAs (Decidable (_ ∨ _))

/-- What is wrong with a lesson that is declared in another way. -/
def fault (l : Lesson) : LessonIssue :=
  if l.git = [] then if l.path = [] then .neitherGitNorPath else .pinnedPath
  else if l.path = [] then .notOnePin else .gitAndPath

/-- The pins of a lesson are counted: its revision, its tag and its branch, if they are given. -/
lemma length_pins (l : Lesson) :
    l.pins.length = (if l.rev = [] then 0 else 1) + (if l.tag = [] then 0 else 1)
      + (if l.branch = [] then 0 else 1) := by
  simp only [pins, List.filter_cons, List.filter_nil]
  split_ifs <;> simp_all

lemma length_pins_eq_zero_iff : l.pins.length = 0 ↔ l.Unpinned := by
  rw [length_pins, Unpinned]
  split_ifs <;> simp_all

lemma length_pins_eq_one_iff : l.pins.length = 1 ↔ l.PinnedOnce := by
  rw [length_pins, PinnedOnce]
  split_ifs <;> simp_all

/-- A lesson is well formed if it has an address and one pin, or a path and none. -/
lemma wellFormed_iff :
    l.WellFormed ↔ (l.git ≠ [] ∧ l.path = [] ∧ l.pins.length = 1)
      ∨ (l.git = [] ∧ l.path ≠ [] ∧ l.pins.length = 0) := by
  rw [WellFormed, length_pins_eq_one_iff, length_pins_eq_zero_iff]

/-- A lesson that is not well formed has its fault for an issue. -/
lemma issue?_eq (l : Lesson) : l.issue? = if l.WellFormed then none else some l.fault := by
  simp only [issue?, wellFormed_iff, fault]
  by_cases hgit : l.git = [] <;> by_cases hpath : l.path = [] <;>
    simp [hgit, hpath, Nat.pos_iff_ne_zero]

/-- **A lesson in a repository has a pin.** -/
lemma WellFormed.exists_pin (h : l.WellFormed) (hgit : l.isGit = true) : ∃ p, l.pin? = some p := by
  have hne : l.git ≠ [] := by simpa [isGit] using hgit
  obtain ⟨-, -, hrev | htag | hbranch⟩ := h.resolve_right fun hpath => hne hpath.1
  · exact ⟨.rev l.rev, by simp [pin?, hrev]⟩
  · exact ⟨.tag l.tag, by simp [pin?, htag]⟩
  · exact ⟨.branch l.branch, by simp [pin?, hbranch]⟩

end Lesson

/-! ### What a file says -/

namespace ManifestFields

variable {f : ManifestFields}

/-- Two targets with one key. -/
def sameKey (s t : Text × TargetFields) : Bool := keyOf s.1 == keyOf t.1

/-- **The targets that count**: of those with one key, the first. -/
def kept (f : ManifestFields) : List (Text × TargetFields) := f.targets.eraseDupsBy sameKey

/-- The lesson of a target, if it has one, is there. -/
def Declares (f : ManifestFields) (t : Text × TargetFields) : Prop :=
  keyOf t.2.lesson = [] ∨ keyOf t.2.lesson ∈ f.lessons.keys

instance (f : ManifestFields) (t : Text × TargetFields) : Decidable (f.Declares t) :=
  inferInstanceAs (Decidable (_ ∨ _))

/-- **What a manifest file should say.** -/
structure Valid (f : ManifestFields) : Prop where
  name : keyOf f.name ≠ []
  authors : ∀ a ∈ f.authors, a.trim ≠ []
  mains : ∀ t ∈ f.kept, t.2.main.trim ≠ []
  declares : ∀ t ∈ f.kept, f.Declares t
  lessons : ∀ e ∈ f.lessons, ∀ l ∈ e.2, l.WellFormed

/-- The points in which a target is not as it should be. -/
def targetFaults (f : ManifestFields) (t : Text × TargetFields) : List Issue :=
  (if t.2.main.trim = [] then [.noMain t.1.trim] else [])
    ++ if f.Declares t then [] else [.unknownLesson t.1.trim (keyOf t.2.lesson)]

/-- **The points in which a manifest file does not say what it should**: its name, its authors, its
targets in their order and its lessons in the order of their keys. -/
def faults (f : ManifestFields) : List Issue :=
  (if keyOf f.name = [] then [.noName] else [])
    ++ (f.authors.zipIdx.filter fun a => a.1.trim = []).map (fun a => .blankAuthor a.2)
    ++ f.kept.flatMap f.targetFaults
    ++ f.lessons.filterMap fun e =>
      e.2.bind fun l => if l.WellFormed then none else some (.lesson e.1 l.fault)

/-- A target is without fault if it has a program and names a lesson that is declared, or none. -/
lemma targetFaults_eq_nil_iff {t : Text × TargetFields} :
    f.targetFaults t = [] ↔ t.2.main.trim ≠ [] ∧ f.Declares t := by
  rw [targetFaults, List.append_eq_nil_iff]
  split_ifs <;> simp_all

/-- A valid file is one without faults. -/
lemma faults_eq_nil_iff : f.faults = [] ↔ f.Valid := by
  have hauthors : (f.authors.zipIdx.filter fun a => a.1.trim = []) = []
      ↔ ∀ a ∈ f.authors, a.trim ≠ [] := by
    rw [List.filter_eq_nil_iff, List.forall_mem_zipIdx, List.forall_mem_iff_forall_getElem]
    simp
  have hlessons : ∀ e ∈ f.lessons, ((e.2.bind fun l =>
      if l.WellFormed then none else some (Issue.lesson e.1 l.fault)) = none
        ↔ ∀ l ∈ e.2, l.WellFormed) := by
    rintro ⟨key, l⟩ -
    cases l <;> simp
  rw [faults]
  simp only [List.append_eq_nil_iff, List.map_eq_nil_iff, hauthors, List.flatMap_eq_nil_iff,
    targetFaults_eq_nil_iff, List.filterMap_eq_nil_iff]
  constructor
  · rintro ⟨⟨⟨hname, hauthors⟩, htargets⟩, hlessons'⟩
    refine ⟨fun hnil => ?_, hauthors, fun t ht => (htargets t ht).1, fun t ht => (htargets t ht).2,
      fun e he => (hlessons e he).mp (hlessons' e he)⟩
    rw [if_pos hnil] at hname
    exact absurd hname (by simp)
  · rintro ⟨hname, hauthors, hmains, hdeclares, hlessons'⟩
    exact ⟨⟨⟨if_neg hname, hauthors⟩, fun t ht => ⟨hmains t ht, hdeclares t ht⟩⟩,
      fun e he => (hlessons e he).mpr (hlessons' e he)⟩

instance (f : ManifestFields) : Decidable f.Valid := decidable_of_iff _ faults_eq_nil_iff

end ManifestFields

namespace Manifest

open Yaml (readDocument)

open Yaml.Decoder (yields_bind yields_fail yields_pure)

/-! ### Targets -/

/-- Targets fill two fields of a manifest and leave the others alone. -/
lemma exists_foldl_addTarget (ts : List (Text × TargetFields)) (m : Manifest) :
    ∃ targets order, ts.foldl addTarget m = { m with targets, order } := by
  induction ts generalizing m with
  | nil => exact ⟨m.targets, m.order, rfl⟩
  | cons t ts ih =>
      obtain ⟨targets, order, hfold⟩ := ih (m.addTarget t)
      refine ⟨targets, order, ?_⟩
      rw [List.foldl_cons, hfold, addTarget]
      split_ifs <;> rfl

/-- The order lists exactly the targets that are there. -/
def Listed (m : Manifest) : Prop := ∀ key, m.targets.has key = true ↔ key ∈ m.order

variable {m : Manifest}

/-- A target is named by the key of its entry. -/
lemma name_ofFields (t : Text × TargetFields) : (Target.ofFields t.1 t.2).name = keyOf t.1 := by
  rw [Target.ofFields, keyOf_eq, Text.trim_trim, ← keyOf_eq]

/-- An entry under a key that is there changes nothing. -/
lemma addTarget_of_has {t : Text × TargetFields} (h : m.targets.has (keyOf t.1) = true) :
    m.addTarget t = m := by
  rw [addTarget]
  exact if_pos (by rwa [name_ofFields])

/-- An entry under a new key goes to the end of the order. -/
lemma addTarget_of_not_has {t : Text × TargetFields} (h : m.targets.has (keyOf t.1) = false) :
    m.addTarget t
      = { m with
          targets := m.targets.set (keyOf t.1) (Target.ofFields t.1 t.2)
          order := m.order ++ [keyOf t.1] } := by
  rw [addTarget, name_ofFields]
  exact if_neg (by simp [h])

/-- The keys with one more entry are the old ones and its own. -/
lemma has_addTarget (m : Manifest) (t : Text × TargetFields) (key : Text) :
    (m.addTarget t).targets.has key = true ↔ key = keyOf t.1 ∨ m.targets.has key = true := by
  cases h : m.targets.has (keyOf t.1)
  · rw [addTarget_of_not_has h, Table.has, Table.get?_set]
    split_ifs with hkey
    · simp [eq_of_beq hkey]
    · rw [← Table.has, or_iff_right (by simpa using hkey)]
  · rw [addTarget_of_has h, or_iff_right_of_imp]
    rintro rfl
    exact h

/-- The order still lists the keys with one more entry. -/
lemma Listed.addTarget (h : m.Listed) (t : Text × TargetFields) : (m.addTarget t).Listed := by
  intro key
  rw [has_addTarget]
  cases hnew : m.targets.has (keyOf t.1)
  · rw [addTarget_of_not_has hnew, h key]
    simp [or_comm]
  · rw [addTarget_of_has hnew, h key, or_iff_right_of_imp]
    rintro rfl
    exact (h _).mp hnew

/-- A target under a new key comes last. -/
lemma orderedTargets_addTarget (h : m.Listed) {t : Text × TargetFields}
    (hnew : m.targets.has (keyOf t.1) = false) :
    (m.addTarget t).orderedTargets = m.orderedTargets ++ [Target.ofFields t.1 t.2] := by
  have hold : ∀ key ∈ m.order, (key == keyOf t.1) = false := by
    intro key hkey
    rw [beq_eq_false_iff_ne]
    rintro rfl
    rw [(h _).mpr hkey] at hnew
    exact absurd hnew (by simp)
  rw [addTarget_of_not_has hnew, orderedTargets, orderedTargets, List.filterMap_append]
  congr 1
  · refine List.filterMap_congr fun key hkey => ?_
    rw [Table.get?_set, hold key hkey]
    rfl
  · simp [Table.get?_set]

/-- The targets of a file come behind those that are there. -/
lemma orderedTargets_foldl (h : m.Listed) (ts : List (Text × TargetFields)) :
    (ts.foldl addTarget m).Listed
      ∧ (ts.foldl addTarget m).orderedTargets = m.orderedTargets
          ++ ((ts.filter fun t => !m.targets.has (keyOf t.1)).eraseDupsBy ManifestFields.sameKey).map
            fun t => Target.ofFields t.1 t.2 := by
  induction ts generalizing m with
  | nil => exact ⟨h, by simp⟩
  | cons t ts ih =>
      obtain ⟨hlisted, hordered⟩ := ih (h.addTarget t)
      refine ⟨hlisted, hordered.trans ?_⟩
      cases hnew : m.targets.has (keyOf t.1)
      · have hfilter : (ts.filter fun u => !(m.addTarget t).targets.has (keyOf u.1))
            = (ts.filter fun u => !m.targets.has (keyOf u.1)).filter
              fun u => ManifestFields.sameKey u t = false := by
          rw [List.filter_filter]
          refine List.filter_congr fun u _ => ?_
          rw [Bool.eq_iff_iff, Bool.not_eq_true', Bool.eq_false_iff, ne_eq, has_addTarget, not_or]
          simp [ManifestFields.sameKey]
        rw [orderedTargets_addTarget h hnew, hfilter, List.filter_cons_of_pos (by simp [hnew]),
          List.eraseDupsBy_cons, List.map_cons, List.append_assoc]
        rfl
      · rw [addTarget_of_has hnew, List.filter_cons_of_neg (by simp [hnew])]

/-! ### Manifests of files -/

section

variable (path : Text) (f : ManifestFields)

/-- The manifest of a file before its targets are added lists none. -/
lemma listed_nil (h : m.targets = []) (hnil : m.order = []) : m.Listed := by
  simp [Listed, Table.has, Table.get?, h, hnil]

lemma listed_ofFields : (ofFields path f).Listed :=
  (orderedTargets_foldl (listed_nil rfl rfl) f.targets).1

/-- The targets of a file stand in the order of their first entries. -/
lemma orderedTargets_ofFields :
    (ofFields path f).orderedTargets = f.kept.map fun t => Target.ofFields t.1 t.2 := by
  have hall : (f.targets.filter fun t => !Table.has ([] : Table Target) (keyOf t.1)) = f.targets :=
    List.filter_eq_self.mpr fun _ _ => rfl
  rw [ofFields, (orderedTargets_foldl (listed_nil rfl rfl) f.targets).2, hall]
  rfl

/-- But for the targets and their order, the manifest is what the fields say. -/
lemma exists_ofFields : ∃ targets order, ofFields path f =
    { path, dir := Path.dir path, name := keyOf f.name, version := f.version.trim,
      authors := f.authors.map Text.trim, targets, order, lessons := f.lessons } :=
  exists_foldl_addTarget f.targets _

/-- The issues of a target are the faults of its entry. -/
lemma targetIssues_ofFields (t : Text × TargetFields) :
    (ofFields path f).targetIssues (Target.ofFields t.1 t.2) = f.targetFaults t := by
  obtain ⟨targets, order, hfields⟩ := exists_ofFields path f
  have hdeclares : (!(keyOf t.2.lesson).isEmpty && !f.lessons.has (keyOf t.2.lesson)) = true
      ↔ ¬f.Declares t := by
    rw [ManifestFields.Declares, ← Table.has_iff_mem_keys]
    simp
  rw [hfields, targetIssues, Target.ofFields, ManifestFields.targetFaults]
  simp only [hdeclares, List.isEmpty_iff, ite_not]

/-- **The issues of a manifest** are the points in which its file does not say what it should. -/
lemma issues_ofFields : (ofFields path f).issues = f.faults := by
  obtain ⟨targets, order, hfields⟩ := exists_ofFields path f
  have htargets : (ofFields path f).orderedTargets.flatMap (ofFields path f).targetIssues
      = f.kept.flatMap f.targetFaults := by
    rw [orderedTargets_ofFields, List.flatMap_map]
    exact List.flatMap_congr fun t _ => targetIssues_ofFields path f t
  have hlessons : ∀ e ∈ f.lessons, (e.2.bind Lesson.issue?).map (Issue.lesson e.1)
      = e.2.bind fun l => if l.WellFormed then none else some (.lesson e.1 l.fault) := by
    rintro ⟨key, l⟩ -
    cases l with
    | none => rfl
    | some l =>
        rw [Option.bind_some, Option.bind_some, Lesson.issue?_eq]
        split_ifs <;> rfl
  have hauthors : ((f.authors.map Text.trim).zipIdx.filterMap fun a =>
        if a.1.isEmpty then some (Issue.blankAuthor a.2) else none)
      = (f.authors.zipIdx.filter fun a => a.1.trim = []).map (fun a => .blankAuthor a.2) := by
    rw [List.zipIdx_map, List.filterMap_map, ← List.filterMap_eq_map, List.filterMap_filter]
    exact List.filterMap_congr fun a _ => by simp
  rw [issues, htargets, hfields, ManifestFields.faults, ← List.filterMap_congr hlessons, ← hauthors]
  simp only [List.isEmpty_iff]

end

variable {path content : Text} {f : ManifestFields}

/-- What stands in the table is among the targets in order. -/
lemma mem_orderedTargets (h : m.Listed) {key : Text} {t : Target} (ht : m.targets.get? key = some t) :
    t ∈ m.orderedTargets :=
  List.mem_filterMap.mpr ⟨key, (h key).mp (by rw [Table.has, ht]; rfl), ht⟩

/-- **A file whose fields can be read** gives its manifest if it is valid, and else its faults. -/
lemma ofText_eq (h : readDocument ManifestFields.record {} content = .ok f) :
    ofText path content
      = if f.Valid then .ok (ofFields path f) else .error (.invalid f.faults) := by
  rw [ofText, h]
  dsimp only
  rw [check, issues_ofFields]
  split_ifs with hvalid
  · rw [ManifestFields.faults_eq_nil_iff.mpr hvalid]
  · cases hfaults : f.faults with
    | nil => exact absurd (ManifestFields.faults_eq_nil_iff.mp hfaults) hvalid
    | cons i is => rfl

lemma ofText_eq_ok_iff (h : readDocument ManifestFields.record {} content = .ok f) :
    ofText path content = .ok m ↔ f.Valid ∧ ofFields path f = m := by
  rw [ofText_eq h]
  split_ifs with hvalid <;> simp [hvalid]

/-! ### Lessons in files -/

/-- The lessons are kept sorted while they are read. -/
lemma keeps_readLessons : readLessons.Keeps Table.Sorted where
  null := by
    rintro v w - hw
    obtain rfl := Option.some.inj hw
    exact List.Pairwise.nil
  own := by
    rintro read hread n v hv
    obtain rfl := Option.some.inj hread
    dsimp only
    split
    · refine yields_bind fun lessons => yields_pure ?_
      cases lessons with
      | none => exact hv
      | some ls => exact Table.sorted_ofList _
    · exact yields_fail _
  entry := by
    intro done line key n v hv
    refine yields_bind fun l => ?_
    cases l with
    | none => exact yields_pure hv
    | some l => exact yields_pure (hv.set key l)

/-- **The lessons of a file** come in the order of their keys. -/
lemma sorted_lessons (h : readDocument ManifestFields.record {} content = .ok f) :
    f.lessons.Sorted := by
  refine (Yaml.MappingType.keeps_record (P := fun f => f.lessons.Sorted) ?_).readDocument
    List.Pairwise.nil h
  simp only [List.forall_mem_cons]
  refine ⟨fun n v hv => ?_, fun n v hv => ?_, fun n v hv => ?_, fun n v hv => ?_, fun n v hv => ?_,
    by simp⟩
  · refine Yaml.Field.yields_ofText (P := fun f : ManifestFields => f.lessons.Sorted) ?_ n hv
    exact fun _ _ h => h
  · refine Yaml.Field.yields_ofText (P := fun f : ManifestFields => f.lessons.Sorted) ?_ n hv
    exact fun _ _ h => h
  · exact yields_bind fun _ => yields_pure hv
  · exact yields_bind fun _ => yields_pure hv
  · exact (keeps_readLessons.read hv n).bind fun _ hresult => yields_pure hresult

/-! ### Programs of targets -/

/-- The lesson of a target is in a repository, and the lockfile, if there is one, does not record
it. -/
structure Unfetched (m : Manifest) (t : Target) (lock : Option Lockfile) (l : Lesson) : Prop where
  named : t.lesson ≠ []
  declared : m.lessons.get? t.lesson = some (some l)
  git : l.isGit = true
  absent : ∀ k ∈ lock, ∀ e ∈ k.entries, e.name ≠ keyOf l.name

/-- Only a git lesson that was not fetched has no place. -/
lemma lessonRoot_eq_none_iff {l : Lesson} {lock : Option Lockfile} {home : Text} :
    m.lessonRoot l lock home = none
      ↔ l.isGit = true ∧ ∀ k ∈ lock, ∀ e ∈ k.entries, e.name ≠ keyOf l.name := by
  rw [lessonRoot]
  split_ifs with hgit
  · cases lock with
    | none => simp [hgit]
    | some k => simp [hgit, Lockfile.find?]
  · simp [hgit]

/-- The program of a target with a lesson is looked up where the lesson lies. -/
lemma resolveMain_of_declared {t : Target} {l : Lesson} (hnamed : t.lesson ≠ [])
    (hl : m.lessons.get? t.lesson = some (some l)) (lock : Option Lockfile) (home : Text) :
    m.resolveMain (some t) lock home = match m.lessonRoot l lock home with
      | none => .error (.notFetched t.label l.name)
      | some root => .ok (Path.join [root, t.main]) := by
  rw [resolveMain, if_neg (by simpa using hnamed)]
  cases hroot : m.lessonRoot l lock home <;> simp only [hl, hroot]

/-- **The program of a target is found** unless its lesson has yet to be fetched. -/
lemma resolveMain_eq_error_iff {t : Target} {lock : Option Lockfile} {home : Text} {e : ResolveError}
    (h : t.lesson ≠ [] → ∃ l, m.lessons.get? t.lesson = some (some l)) :
    m.resolveMain (some t) lock home = .error e
      ↔ ∃ l, m.Unfetched t lock l ∧ e = .notFetched t.label l.name := by
  by_cases hnamed : t.lesson = []
  · rw [resolveMain, if_pos (List.isEmpty_iff.mpr hnamed)]
    refine ⟨fun herror => absurd herror (by simp), ?_⟩
    rintro ⟨l, hl, -⟩
    exact absurd hnamed hl.named
  obtain ⟨l, hl⟩ := h hnamed
  have hunfetched : (∃ l, m.Unfetched t lock l ∧ e = .notFetched t.label l.name)
      ↔ m.lessonRoot l lock home = none ∧ e = .notFetched t.label l.name := by
    rw [lessonRoot_eq_none_iff]
    refine ⟨?_, fun ⟨⟨hgit, habsent⟩, he⟩ => ⟨l, ⟨hnamed, hl, hgit, habsent⟩, he⟩⟩
    rintro ⟨l', hl', he⟩
    obtain rfl : l = l' := Option.some.inj (Option.some.inj (hl.symm.trans hl'.declared))
    exact ⟨⟨hl'.git, hl'.absent⟩, he⟩
  rw [resolveMain_of_declared hnamed hl, hunfetched]
  cases m.lessonRoot l lock home with
  | none => simp [eq_comm]
  | some root => simp

/-- The lesson that a target of a valid file names is there. -/
lemma exists_lesson (hvalid : f.Valid) {key : Text} {t : Target}
    (ht : (ofFields path f).targets.get? key = some t) (hnamed : t.lesson ≠ []) :
    ∃ l, (ofFields path f).lessons.get? t.lesson = some l := by
  obtain ⟨targets, order, hfields⟩ := exists_ofFields path f
  have hmem := mem_orderedTargets (listed_ofFields path f) ht
  rw [orderedTargets_ofFields] at hmem
  obtain ⟨u, hu, rfl⟩ := List.mem_map.mp hmem
  have hkey := Table.has_iff_mem_keys.mpr ((hvalid.declares u hu).resolve_left hnamed)
  rw [hfields]
  exact Option.isSome_iff_exists.mp hkey

/-- **A manifest that is loaded can be used.** A manifest file is loaded if and only if it says what it
should. Otherwise the points in which it does not are the issues: the name, the authors, each target in
its turn, first for its program and then for its lesson, and the lessons in the order of their keys.
A manifest that was loaded has the lessons of the file and the targets that count. All its lessons in
repositories have pins, and the program of a target is found unless its lesson is one in a repository
that the lockfile does not record. This leaves out the targets whose lesson is null, as it can be under
the tag of null. -/
theorem ofText_checked (path : Text)
    (h : readDocument ManifestFields.record {} content = .ok f) :
    ((∃ m, ofText path content = .ok m) ↔ f.Valid)
    ∧ (¬f.Valid → ofText path content = .error (.invalid f.faults))
    ∧ f.lessons.keys.Pairwise (· < ·)
    ∧ ∀ m, ofText path content = .ok m →
      m.lessons = f.lessons ∧ m.orderedTargets = f.kept.map (fun t => Target.ofFields t.1 t.2)
      ∧ (∀ e ∈ m.lessons, ∀ l ∈ e.2, l.isGit = true → ∃ p, l.pin? = some p)
      ∧ ∀ key t, m.targets.get? key = some t →
        (t.lesson ≠ [] → m.lessons.get? t.lesson ≠ some none) → ∀ lock home e,
        (m.resolveMain (some t) lock home = .error e
          ↔ ∃ l, m.Unfetched t lock l ∧ e = .notFetched t.label l.name) := by
  refine ⟨⟨fun ⟨m, hm⟩ => ((ofText_eq_ok_iff h).mp hm).1,
    fun hvalid => ⟨ofFields path f, (ofText_eq_ok_iff h).mpr ⟨hvalid, rfl⟩⟩⟩,
    fun hinvalid => (ofText_eq h).trans (if_neg hinvalid), sorted_lessons h, fun m hm => ?_⟩
  obtain ⟨hvalid, rfl⟩ := (ofText_eq_ok_iff h).mp hm
  obtain ⟨targets, order, hfields⟩ := exists_ofFields path f
  have hlessons : (ofFields path f).lessons = f.lessons := by rw [hfields]
  refine ⟨hlessons, orderedTargets_ofFields path f, fun e he l hl => ?_,
    fun key t ht hnull lock home e => resolveMain_eq_error_iff ?_⟩
  · rw [hlessons] at he
    exact (hvalid.lessons e he l hl).exists_pin
  · intro hnamed
    obtain ⟨l, hl⟩ := exists_lesson hvalid ht hnamed
    cases l with
    | none => exact absurd hl (hnull hnamed)
    | some l => exact ⟨l, hl⟩

/-- A manifest file with a program of its own and one in a lesson. -/
def guideText : Text :=
  utf8 "name: d\ntargets: \x7bmain: main.dada, stop: \x7bmain: stop.dada, lesson: tour\x7d\x7d\nlessons: \x7btour: \x7bgit: /r, tag: v1\x7d\x7d\n"

/-- What it says. -/
def guideFields : ManifestFields where
  name := utf8 "d"
  targets := [(utf8 "main", { main := utf8 "main.dada" }),
    (utf8 "stop", { main := utf8 "stop.dada", lesson := utf8 "tour" })]
  lessons := [(utf8 "tour", some { name := utf8 "tour", git := utf8 "/r", tag := utf8 "v1" })]

/-- The program in the lesson. -/
def guideStop : Target where
  name := utf8 "stop"
  label := utf8 "stop"
  main := utf8 "stop.dada"
  lesson := utf8 "tour"

/-- The manifest that the file describes. -/
def guide : Manifest where
  path := utf8 "/p/dada.yml"
  dir := utf8 "/p"
  name := utf8 "d"
  targets := [(utf8 "main", { name := utf8 "main", label := utf8 "main", main := utf8 "main.dada" }),
    (utf8 "stop", guideStop)]
  order := [utf8 "main", utf8 "stop"]
  lessons := guideFields.lessons

/-- A valid file, and a target whose lesson has yet to be fetched. -/
theorem ofText_checked_guide :
    guideFields.Valid ∧ ofText (utf8 "/p/dada.yml") guideText = .ok guide
      ∧ ∀ home, guide.resolveMain (some guideStop) none home
        = .error (.notFetched (utf8 "stop") (utf8 "tour")) := by
  have hread : readDocument ManifestFields.record {} guideText = .ok guideFields := by
    decide +kernel
  have hload : ofText (utf8 "/p/dada.yml") guideText = .ok guide :=
    (ofText_eq_ok_iff hread).mpr ⟨by decide, by decide⟩
  have hlesson : guide.lessons.get? guideStop.lesson
      = some (some { name := utf8 "tour", git := utf8 "/r", tag := utf8 "v1" }) := by decide
  obtain ⟨hvalid, -, -, hloaded⟩ := ofText_checked (utf8 "/p/dada.yml") hread
  obtain ⟨-, -, -, hresolve⟩ := hloaded guide hload
  refine ⟨hvalid.mp ⟨guide, hload⟩, hload, fun home => ?_⟩
  rw [hresolve (utf8 "stop") guideStop (by decide) (fun _ => by simp [hlesson])]
  exact ⟨_, ⟨by decide, hlesson, rfl, by simp⟩, rfl⟩

/-- **A lesson that is null** is accepted, although it says neither where it is kept nor where it lies,
and the issues of targets come target by target, not all missing programs first. -/
theorem ofText_null_lesson :
    (∃ m, ofText (utf8 "/p/dada.yml") (utf8 "name: d\nlessons: !!null \x7ba: ~\x7d\n") = .ok m
        ∧ ¬∀ e ∈ m.lessons, ∃ l ∈ e.2, l.WellFormed)
      ∧ ofText (utf8 "/p/dada.yml")
          (utf8 "name: d\ntargets: \x7bone: \x7bmain: m, lesson: x\x7d, two: \x7bmain: ''\x7d\x7d\n")
        = .error (.invalid [.unknownLesson (utf8 "one") (utf8 "x"), .noMain (utf8 "two")]) := by
  have hnull : ofText (utf8 "/p/dada.yml") (utf8 "name: d\nlessons: !!null \x7ba: ~\x7d\n")
      = .ok
        { path := utf8 "/p/dada.yml"
          dir := utf8 "/p"
          name := utf8 "d"
          lessons := [(utf8 "a", none)] } := by
    decide +kernel
  exact ⟨⟨_, hnull, by simp⟩, by decide +kernel⟩

end Manifest

end LessonLang
