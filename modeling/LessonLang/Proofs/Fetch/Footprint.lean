import LessonLang.Proofs.Project
import LessonLang.Proofs.Repository

/-!
What fetching leaves alone.

* `World.Regular` is what a command can rely on: it runs in a directory, and repositories are kept
  lawfully.
* `World.Spares` says that one place has the same entry as before, that directories stay directories and
  that the same is refused. Fetching a lesson spares a place for a lockfile, whatever comes of it
  (`World.spares_fetchLesson`), if that place is not one around the versions of the lesson.

The place for a lockfile is guarded by its name: it is not the directory of a version, because the name
of a version ends in a hexadecimal digit, and if it is below such a directory then the version is there
already and nothing is checked out.
-/

namespace LessonLang

/-- **What a command can rely on**: it runs in a directory, and whoever keeps the repositories keeps
them lawfully, those of the world included. -/
structure World.Regular {ρ : Type} [Git ρ] (w : World ρ) : Prop where
  absolute : Path.isAbsolute w.directory = true
  holds : w.disk.Holds (Path.walk [] w.directory)
  git : ∃ Sound : ρ → Prop, Git.Lawful Sound ∧ w.repositories.All Sound

/-! ### Sparing a place on a disk -/

namespace Disk

variable {d d' : Disk} {base dir path : Text} {place : List Text}

/-- **A place is spared**: its entry stays, and so do all directories and all that is refused. -/
structure Spares (place : List Text) (d d' : Disk) : Prop where
  grows : d.Grows d'
  same : d'.get? place = d.get? place
  refusals : d'.refusals = d.refusals

lemma Spares.refl (place : List Text) (d : Disk) : d.Spares place d := ⟨Grows.refl d, rfl, rfl⟩

lemma Spares.trans {d'' : Disk} (h : Spares place d d') (h' : Spares place d' d'') :
    Spares place d d'' :=
  ⟨h.grows.trans h'.grows, h'.same.trans h.same, h'.refusals.trans h.refusals⟩

/-- What bars a place that is spared stays the same. -/
lemma Spares.barrier? (h : Spares place d d') : d'.barrier? place = d.barrier? place :=
  barrier?_congr h.refusals h.same

/-- A place is spared by making a directory, unless nothing is there and it is around the directory. -/
lemma spares_makeDirectories (h : d.makeDirectories base path = .ok d')
    (hpath : d.get? place = none → ¬place <+: Path.spot base path) : Spares place d d' := by
  obtain ⟨hmade, -⟩ := makeDirectories_ok h
  refine ⟨hmade.grows, (hmade place).resolve_right ?_, refusals_of_makeDirectories h⟩
  rintro ⟨hnone, -, hpre⟩
  exact hpath hnone hpre

/-- A place is spared by writing a file elsewhere. -/
lemma spares_write {content : Text} (hb : Path.isAbsolute base = true)
    (h : d.write base path content = .ok d') (hpath : Path.spot base path ≠ place) :
    Spares place d d' := by
  obtain ⟨r, hlocate, hr, -, rfl⟩ := write_ok_iff.mp h
  obtain ⟨-, rfl⟩ := eq_spot_of_locate hb hlocate
  have hne : Path.spot base path ≠ [] := by
    intro hnil
    rw [hnil] at hr
    exact hr rfl
  exact ⟨grows_set hr _, by rw [get?_set d hne, if_neg hpath.symm], refusals_set d _ _⟩

/-- One element back from below a place is below it or around it. -/
lemma comparable_of_advance {q : List Text} {e : Text} (he : Path.slash ∉ e)
    (h : place <+: Path.advance q e) : place <+: q ∨ q <+: place := by
  obtain (rfl | rfl) | rfl | hname := Path.element_cases he
  · exact Or.inl h
  · exact Or.inl h
  · exact Or.inl (h.trans (List.dropLast_prefix q))
  · rw [Path.advance_of_isName hname] at h
    obtain rfl | h := List.prefix_concat_iff.mp h
    · exact Or.inr (List.prefix_append q [e])
    · exact Or.inl h

/-- **Files are written below a directory**: a place that is neither around nor below it is spared. -/
lemma spares_addFiles (hb : Path.isAbsolute base = true) (hdir : dir ≠ [])
    {files : List (Text × Text)} (hfiles : ∀ f ∈ files, Path.above ∉ Path.elements f.1)
    (hbelow : ¬Path.spot base dir <+: place)
    (haround : d.get? place = none → ¬place <+: Path.spot base dir)
    (h : World.addFiles base dir files d = .ok d') : Spares place d d' := by
  induction files generalizing d with
  | nil =>
      obtain rfl := Except.ok.inj h
      exact Spares.refl place d
  | cons f rest ih =>
      obtain ⟨name, content⟩ := f
      obtain ⟨hname, hrest⟩ := List.forall_mem_cons.mp hfiles
      have hspot : Path.spot base dir <+: Path.spot base (Path.join [dir, name]) := by
        rw [Path.spot_join hb hdir]
        exact Path.prefix_foldl_advance hname _
      obtain ⟨e, he, -, hadvance⟩ := Path.exists_spot_dir hb (Path.join [dir, name])
      rw [World.addFiles] at h
      split at h
      · exact absurd h (by simp)
      · rename_i d₁ hmake
        split at h
        · exact absurd h (by simp)
        · rename_i d₂ hwrite
          have h₁ : Spares place d d₁ := by
            refine spares_makeDirectories hmake fun hnone hpre => ?_
            obtain hle | hle := comparable_of_advance he (hadvance ▸ hspot)
            · obtain h | h := List.prefix_or_prefix_of_prefix hpre hle
              · exact haround hnone h
              · exact hbelow h
            · exact haround hnone (hpre.trans hle)
          have h₂ : Spares place d₁ d₂ :=
            spares_write hb hwrite fun heq => hbelow (heq ▸ hspot)
          have h₁₂ := h₁.trans h₂
          exact h₁₂.trans (ih hrest (by rwa [h₁₂.same]) h)

end Disk

/-! ### Sparing a place in a world -/

namespace World

variable {ρ : Type} [Git ρ] {w w' : World ρ} {place : List Text} {manifest : Manifest}
  {home base dir : Text} {lesson : Lesson}

/-- **A place is spared** by what happens in a world. -/
structure Spares (place : List Text) (w w' : World ρ) : Prop where
  directory : w'.directory = w.directory
  disk : w.disk.Spares place w'.disk
  regular : w.Regular → w'.Regular

lemma Spares.refl (place : List Text) (w : World ρ) : w.Spares place w :=
  ⟨rfl, Disk.Spares.refl place _, id⟩

lemma Spares.trans {w'' : World ρ} (h : Spares place w w') (h' : Spares place w' w'') :
    Spares place w w'' :=
  ⟨h'.directory.trans h.directory, h.disk.trans h'.disk, h'.regular ∘ h.regular⟩

/-- Only files change. -/
lemma Spares.ofDisk {d : Disk} (h : w.disk.Spares place d) : w.Spares place { w with disk := d } :=
  ⟨rfl, h, fun hw => ⟨hw.absolute, h.grows.holds hw.holds, hw.git⟩⟩

/-- **A place for a lockfile**: everything around it is a directory, and it is none itself. -/
structure Guarded (place : List Text) (w : World ρ) : Prop where
  regular : w.Regular
  around : ∀ q, q <+: place → q ≠ place → w.disk.get? q = some .directory
  entry : w.disk.get? place ≠ some .directory
  name : place.getLast? = some lockfileName

/-- A place for a lockfile stays one if it is spared. -/
lemma Guarded.spares (hw : w.Guarded place) (h : w.Spares place w') : w'.Guarded place :=
  ⟨h.regular hw.regular, fun q hq hne => h.disk.grows q (hw.around q hq hne),
    by rw [h.disk.same]; exact hw.entry, hw.name⟩

/-- Nothing is made at a place by making a directory: there is a file, or the directory is elsewhere. -/
def Clear (place : List Text) (w : World ρ) (path : Text) : Prop :=
  w.disk.get? place = none → ¬place <+: Path.spot w.directory path

lemma Clear.spares (h : w.Clear place dir) (h' : w.Spares place w') : w'.Clear place dir := by
  rw [Clear, h'.disk.same, h'.directory]
  exact h

lemma spares_makeDirectories (h : w.Clear place dir) :
    w.Spares place (w.perform (Shell.makeDirectories dir)).2 := by
  rw [perform_makeDirectories]
  cases hmake : w.disk.makeDirectories w.directory dir with
  | error e => exact Spares.refl place w
  | ok d => exact Spares.ofDisk (Disk.spares_makeDirectories hmake h)

/-- What leads to a directory is there. -/
lemma there_of_holds (hw : w.Regular) (h : w.disk.Holds (Path.spot w.directory (Path.clean dir))) :
    w.there (Path.clean dir) = true := by
  rw [Path.spot_clean hw.absolute] at h
  have hlocate := Disk.locate_clean hw.absolute hw.holds fun q hq _ => h q hq
  rw [there, Disk.entry, hlocate]
  dsimp only
  rw [h.self]
  rfl

lemma isName_historyName : Path.IsName Disk.historyName := by
  constructor <;> decide

/-- A directory inside one where a place is clear is clear of it too, if it is not around it. -/
lemma Clear.join (hw : w.Regular) (hdir : dir ≠ []) {e : Text} (he : Path.IsName e)
    (h : w.Clear place dir) (hbelow : ¬Path.spot w.directory (Path.join [dir, e]) <+: place) :
    w.Clear place (Path.join [dir, e]) := by
  intro hnone hpre
  rw [Path.spot_join_name hw.absolute hdir he] at hpre hbelow
  obtain rfl | hpre := List.prefix_concat_iff.mp hpre
  · exact hbelow List.prefix_rfl
  · exact h hnone hpre

/-- Fetching a repository changes no files. -/
lemma spares_clone (url : Text) : w.Spares place (w.clone url).2 :=
  ⟨rfl, Disk.Spares.refl place _, fun hw => ⟨hw.absolute, hw.holds, hw.git⟩⟩

/-- **A checkout is below its directory**: a place that is neither around nor below that is spared. -/
lemma spares_checkOut (hw : w.Regular) {Sound : ρ → Prop} (hlawful : Git.Lawful Sound)
    (hall : w.repositories.All Sound) {r : ρ} (hr : Sound r) (commit : Text) (hdir : dir ≠ [])
    (hbelow : ¬Path.spot w.directory dir <+: place) (hclear : w.Clear place dir) :
    w.Spares place (w.checkOut dir r commit).2 := by
  have hhistory : w.Clear place (Path.join [dir, Disk.historyName]) := by
    refine hclear.join hw hdir isName_historyName fun hpre => hbelow ?_
    rw [Path.spot_join_name hw.absolute hdir isName_historyName] at hpre
    exact (List.prefix_append _ _).trans hpre
  rw [checkOut]
  rcases hout : Git.checkOut r commit with f | ⟨tree, kept⟩
  · exact Spares.refl place w
  dsimp only
  cases hmake : w.disk.makeDirectories w.directory (Path.join [dir, Disk.historyName]) with
  | error e => exact Spares.refl place w
  | ok d =>
      have hd := Disk.spares_makeDirectories hmake hhistory
      cases hfill : addFiles w.directory dir tree d with
      | error e =>
          simp only [bind, Except.bind, hfill]
          exact Spares.refl place w
      | ok d' =>
          simp only [bind, Except.bind, hfill]
          have hd' := Disk.spares_addFiles hw.absolute hdir (hlawful.tree hr hout) hbelow
            (by rw [hd.same]; exact hclear) hfill
          have hspares := hd.trans hd'
          exact ⟨rfl, hspares, fun _ => ⟨hw.absolute, hspares.grows.holds hw.holds,
            Sound, hlawful, hall.set _ (hlawful.kept hr hout)⟩⟩

/-! ### Lessons -/

/-- The name of a version ends like the name of its commit. -/
lemma exists_pinnedVersion {commit : Text} (hcommit : IsCommitName commit) (descriptor : Text) :
    ∃ t b, pinnedVersion descriptor commit = t ++ [b] ∧ (hexValue? b).isSome = true := by
  obtain ⟨t, b, rfl, hb⟩ := hcommit.exists_concat
  rw [pinnedVersion]
  split_ifs
  · simp_all
  · exact ⟨t, b, rfl, hb⟩
  · exact ⟨descriptor ++ 0x40 :: t, b, by simp, hb⟩

/-- What the first of several revisions means that means anything is what one of them means. -/
lemma exists_of_firstMeant {resolve : Text → Except Text Text} {revisions : List Text} {commit : Text}
    (h : firstMeant resolve revisions = .ok commit) :
    ∃ revision ∈ revisions, resolve revision = .ok commit := by
  induction revisions with
  | nil => exact absurd h (by simp [firstMeant])
  | cons revision rest ih =>
      cases rest with
      | nil => exact ⟨revision, List.mem_cons_self, h⟩
      | cons next rest =>
          rw [firstMeant] at h
          split at h
          · rename_i commit' hc
            obtain rfl := Except.ok.inj h
            exact ⟨revision, List.mem_cons_self, hc⟩
          · obtain ⟨found, hmem, hfound⟩ := ih h
            exact ⟨found, List.mem_cons_of_mem _ hmem, hfound⟩
          · simp

/-- The element for such a name does not end like any of these elements. -/
lemma safeElement_ne {t e : Text} {b : UInt8} (hb : (hexValue? b).isSome = true)
    (he : (e.getLast?.bind hexValue?) = none) : Path.safeElement (t ++ [b]) ≠ e := by
  rintro rfl
  rw [Path.getLast?_safeElement hb, Option.bind_some] at he
  rw [he] at hb
  exact absurd hb (by simp)

lemma isName_safeElement {t : Text} {b : UInt8} (hb : (hexValue? b).isSome = true) :
    Path.IsName (Path.safeElement (t ++ [b])) :=
  ⟨Path.safeElement_ne_nil _, safeElement_ne hb (by decide), safeElement_ne hb (by decide),
    Path.slash_not_mem_safeElement _⟩

/-- **The directory of a version that is not there** is not around a place for a lockfile. -/
lemma not_prefix_of_absent (hw : w.Guarded place) (hbase : base ≠ []) {t : Text} {b : UInt8}
    (hb : (hexValue? b).isSome = true)
    (habsent : w.there (Path.join [base, Path.safeElement (t ++ [b])]) = false) :
    ¬Path.spot w.directory (Path.join [base, Path.safeElement (t ++ [b])]) <+: place := by
  intro hpre
  have hspot : Path.spot w.directory (Path.join [base, Path.safeElement (t ++ [b])])
      = Path.spot w.directory base ++ [Path.safeElement (t ++ [b])] :=
    Path.spot_join_name hw.regular.absolute hbase (isName_safeElement hb)
  by_cases heq : Path.spot w.directory (Path.join [base, Path.safeElement (t ++ [b])]) = place
  · -- the lockfile has another name
    have hname := hw.name
    rw [← heq, hspot, List.getLast?_concat] at hname
    exact safeElement_ne hb (by decide) (Option.some.inj hname)
  · -- what is around the lockfile is there
    rw [Path.join_cons hbase] at habsent hpre heq
    have hholds := there_of_holds hw.regular fun q hq => hw.around q (hq.trans hpre) fun hq' =>
      heq (List.IsPrefix.eq_of_length_le hpre (hq' ▸ hq.length_le))
    rw [hholds] at habsent
    exact absurd habsent (by simp)

/-- **A place is spared** by one action after another. -/
lemma spares_bind {α β : Type} {a : ExceptT FetchError (StateM (World ρ)) α}
    {f : α → ExceptT FetchError (StateM (World ρ)) β} (ha : w.Spares place (w.attempt a).2)
    (hf : ∀ x w₁, w.attempt a = (.ok x, w₁) → w₁.Spares place (w₁.attempt (f x)).2) :
    w.Spares place (w.attempt (a >>= f)).2 := by
  rw [attempt_bind]
  rcases h : w.attempt a with ⟨e | x, w₁⟩
  · rwa [h] at ha
  · rw [h] at ha
    exact ha.trans (hf x w₁ h)

/-- **Checking a pin out spares a place for a lockfile**, whether or not it succeeds. -/
lemma spares_checkOutPin (hw : w.Guarded place) (hbase : base ≠ []) (hclear : w.Clear place base)
    (pin : Pin) : w.Spares place (w.attempt (checkOutPin base lesson pin)).2 := by
  obtain ⟨Sound, hlawful, hall⟩ := hw.regular.git
  rw [checkOutPin]
  refine spares_bind ?_ fun _ w₁ hroom => ?_
  · rw [attempt_makeRoom]
    exact Spares.refl place w
  rw [attempt_makeRoom] at hroom
  obtain rfl := (Prod.mk.inj hroom).2
  have hcloned : w.Spares place (w.clone lesson.git).2 := spares_clone lesson.git
  refine spares_bind (by rwa [attempt_cloneRepository]) fun r w₁ hr => ?_
  rw [attempt_cloneRepository_ok_iff] at hr
  rw [hr] at hcloned
  obtain ⟨hclone, hsame⟩ := clone_eq_iff.mp hr
  have hsound : Sound r := hlawful.clone hall hclone
  have hall₁ : w₁.repositories.All Sound := hsame ▸ hall
  have hw₁ := hw.spares hcloned
  have hclear₁ := hclear.spares hcloned
  cases hc : firstMeant (Git.resolve r) pin.revisions with
  | error reason => exact Spares.refl place w₁
  | ok commit =>
      obtain ⟨revision, -, hmeant⟩ := exists_of_firstMeant hc
      obtain ⟨t, b, hversion, hb⟩ := exists_pinnedVersion (hlawful.name hsound hmeant) pin.descriptor
      dsimp only
      rw [attempt_isThere_bind, hversion]
      split_ifs with habsent
      · have hbelow := not_prefix_of_absent hw₁ hbase hb (by simpa using habsent)
        refine spares_bind ?_ fun _ _ _ => Spares.refl place _
        rw [attempt_checkOutCommit]
        exact spares_checkOut hw₁.regular hlawful hall₁ hsound commit
          (Path.join_ne_nil List.mem_cons_self hbase) hbelow
          (hclear₁.join hw₁.regular hbase (isName_safeElement hb) hbelow)
      · exact Spares.refl place w₁

lemma spares_ensureCheckout (hw : w.Guarded place) (hbase : base ≠ [])
    (hclear : w.Clear place base) :
    w.Spares place (w.attempt (ensureCheckout base lesson)).2 := by
  rw [ensureCheckout]
  have hmake := spares_makeDirectories hclear
  refine spares_bind (by rwa [attempt_onFiles]) fun _ w₁ hw₁ => ?_
  rw [attempt_onFiles_ok_iff.mp hw₁] at hmake
  have hg := hw.spares hmake
  have hclear₁ := hclear.spares hmake
  cases lesson.pin? with
  | none => exact Spares.refl place w₁
  | some pin =>
      cases pin with
      | rev r =>
          dsimp only
          rw [attempt_isThere_bind]
          split_ifs
          · exact Spares.refl place w₁
          · exact spares_checkOutPin hg hbase hclear₁ _
      | tag t => exact spares_checkOutPin hg hbase hclear₁ _
      | branch b => exact spares_checkOutPin hg hbase hclear₁ _

/-- **Fetching a lesson spares a place for a lockfile**, whether or not it succeeds. -/
lemma spares_fetchLesson (hw : w.Guarded place)
    (hclear : lesson.isGit = true → w.Clear place (lessonBase home lesson.name)) :
    w.Spares place (w.attempt (fetchLesson manifest home lesson)).2 := by
  have hsum : ∀ (w : World ρ) dir (f : Text → LockedLesson),
      w.Spares place (w.attempt (directoryChecksum dir >>= fun sum => pure (f sum))).2 := by
    intro w dir f
    refine spares_bind ?_ fun _ _ _ => Spares.refl place _
    have hsame : (w.attempt (directoryChecksum dir)).2 = w :=
      eq_of_directoryChecksum (Prod.eta _).symm
    rw [hsame]
    exact Spares.refl place w
  rw [fetchLesson]
  split_ifs with hgit
  · have hbase : lessonBase home lesson.name ≠ [] :=
      Path.join_ne_nil (p := utf8 "lessons") (by simp) (by decide)
    exact spares_bind (spares_ensureCheckout hw hbase (hclear hgit)) fun _ w₁ _ => hsum w₁ _ _
  · rw [fetchDirectory]
    refine spares_bind ?_ fun isDir w₁ _ => ?_
    · rw [attempt_onFiles, perform_isDirectory]
      exact Spares.refl place w
    · split_ifs
      · exact hsum w₁ _ _
      · exact Spares.refl place w₁

end World

end LessonLang
