import LessonLang.Proofs.Project

/-!
Where a fetched lesson is found.

* `Checkout` says how a version of a lesson gets into a directory: it is there already, or the commit
  that the pin selects is checked out there (`World.checkout_of_ensureCheckout`). What a fetch gives,
  which commit the pin selects and what its files are is up to those who keep the repository.
* `LeftIn` says in which directory fetching leaves a lesson. The checksum that is recorded is of the
  files in it (`World.left_of_fetchLesson`).
* Programs of the lesson are looked up in that directory, by a lockfile that was written after the
  lesson was recorded and was read again (`World.fetched_lesson_located`).
-/

namespace LessonLang

/-- **A version of a lesson has a directory**: it was there, or the commit that the pin selects was
checked out into it. -/
inductive Checkout {ρ : Type} [Git ρ] (lesson : Lesson) (dir : Text) :
    World ρ → World ρ → Prop where
  | already {w : World ρ} (h : w.there dir = true) (asked : List Text) :
      Checkout lesson dir w { w with asked }
  | carriedOut {w w' : World ρ} {pin : Pin} {r : ρ} {commit : Text}
      (hpin : lesson.pin? = some pin) (hr : Git.clone w lesson.git = .ok r)
      (hc : firstMeant (Git.resolve r) pin.revisions = .ok commit)
      (h : (w.clone lesson.git).2.checkOut dir r commit = (.ok (), w')) : Checkout lesson dir w w'

/-- **The directory that a lesson is left in** by fetching it. -/
inductive LeftIn {ρ : Type} [Git ρ] (manifest : Manifest) (home : Text) (lesson : Lesson)
    (w w' : World ρ) : Text → Prop where
  | version {w₀ : World ρ} {version commit : Text} (hgit : lesson.isGit = true)
      (h : w.attempt (ensureCheckout (lessonBase home lesson.name) lesson)
        = (.ok (version, commit), w'))
      (hbase : w.perform (Shell.makeDirectories (lessonBase home lesson.name)) = (.ok (), w₀))
      (hcheckout : Checkout lesson
        (Path.join [lessonBase home lesson.name, Path.safeElement version]) w₀ w') :
      LeftIn manifest home lesson w w'
        (Path.join [lessonBase home lesson.name, Path.safeElement version])
  | directory (hpath : lesson.isGit = false) (h : w' = w) :
      LeftIn manifest home lesson w w' (manifest.resolvePath lesson.path)

namespace World

variable {ρ : Type} [Git ρ] {manifest : Manifest} {home base : Text} {lesson : Lesson}
  {w w' : World ρ}

/-! ### Checkouts -/

/-- What a pin selects has a directory once it was made sure of. -/
lemma checkout_of_checkOutPin {pin : Pin} {version commit : Text} (hpin : lesson.pin? = some pin)
    (h : w.attempt (checkOutPin base lesson pin) = (.ok (version, commit), w')) :
    Checkout lesson (Path.join [base, Path.safeElement version]) w w' := by
  rw [checkOutPin, attempt_bind_ok_iff] at h
  obtain ⟨_, w₁, hroom, h⟩ := h
  rw [attempt_makeRoom] at hroom
  obtain rfl := (Prod.mk.inj hroom).2
  obtain ⟨r, w₁, hcloned, h⟩ := attempt_bind_ok_iff.mp h
  obtain ⟨hclone, rfl⟩ := clone_eq_iff.mp (attempt_cloneRepository_ok_iff.mp hcloned)
  cases hc : firstMeant (Git.resolve r) pin.revisions with
  | error reason =>
      rw [show firstMeant (Shell.resolve r) pin.revisions = _ from hc] at h
      exact absurd h (by simp)
  | ok c =>
      rw [show firstMeant (Shell.resolve r) pin.revisions = _ from hc] at h
      dsimp only at h
      rw [attempt_isThere_bind] at h
      split_ifs at h with habsent
      · obtain ⟨_, w₁, hcheckOut, h⟩ := attempt_bind_ok_iff.mp h
        obtain ⟨hversion, rfl⟩ := Prod.mk.inj h
        obtain ⟨rfl, -⟩ := Prod.mk.inj (Except.ok.inj hversion)
        exact .carriedOut hpin hclone hc (attempt_checkOutCommit_ok_iff.mp hcheckOut)
      · obtain ⟨hversion, rfl⟩ := Prod.mk.inj h
        obtain ⟨rfl, -⟩ := Prod.mk.inj (Except.ok.inj hversion)
        -- that it was there does not depend on what was fetched
        have hthere := by simpa using habsent
        exact .already (w := w) hthere _

/-- **A version has a directory** once it was made sure of: the directory was there when the one
around it was made, or the commit that is pinned was checked out. -/
lemma checkout_of_ensureCheckout {version commit : Text}
    (h : w.attempt (ensureCheckout base lesson) = (.ok (version, commit), w')) :
    ∃ w₀, w.perform (Shell.makeDirectories base) = (.ok (), w₀)
      ∧ Checkout lesson (Path.join [base, Path.safeElement version]) w₀ w' := by
  rw [ensureCheckout] at h
  obtain ⟨_, w₀, hbase, h⟩ := attempt_bind_ok_iff.mp h
  refine ⟨w₀, attempt_onFiles_ok_iff.mp hbase, ?_⟩
  cases hpin : lesson.pin? with
  | none =>
      rw [hpin] at h
      exact absurd h (by simp)
  | some pin =>
      rw [hpin] at h
      cases pin with
      | rev r =>
          dsimp only at h
          rw [attempt_isThere_bind] at h
          split_ifs at h with hthere
          · obtain ⟨hversion, rfl⟩ := Prod.mk.inj h
            obtain ⟨rfl, -⟩ := Prod.mk.inj (Except.ok.inj hversion)
            exact .already hthere _
          · exact checkout_of_checkOutPin hpin h
      | tag t => exact checkout_of_checkOutPin hpin h
      | branch b => exact checkout_of_checkOutPin hpin h

/-! ### Directories of lessons -/

/-- **Fetching leaves a lesson in a directory** and records the checksum of that directory. -/
lemma left_of_fetchLesson {entry : LockedLesson} (hhome : Path.isAbsolute home = true)
    (h : w.attempt (fetchLesson manifest home lesson) = (.ok entry, w')) :
    ∃ dir, LeftIn manifest home lesson w w' dir
      ∧ w'.attempt (directoryChecksum dir) = (.ok entry.checksum, w')
      ∧ entry.name = lesson.name
      ∧ (lesson.isGit = true → lessonDir home lesson.name entry.version = dir)
      ∧ (lesson.isGit = false → manifest.resolvePath lesson.path = dir) := by
  have hdir : ∀ version, lessonDir home lesson.name version
      = Path.join [lessonBase home lesson.name, Path.safeElement version] := fun version =>
    (Path.join_join hhome [_, _] [_]).symm
  rw [fetchLesson] at h
  split_ifs at h with hgit
  · obtain ⟨⟨version, commit⟩, w₁, hensure, h⟩ := attempt_bind_ok_iff.mp h
    obtain ⟨sum, w₂, hsum, h⟩ := attempt_bind_ok_iff.mp h
    obtain ⟨hentry, rfl⟩ := Prod.mk.inj h
    obtain rfl := Except.ok.inj hentry
    obtain rfl := eq_of_directoryChecksum hsum
    obtain ⟨w₀, hbase, hcheckout⟩ := checkout_of_ensureCheckout hensure
    rw [hdir] at hsum
    exact ⟨_, .version hgit hensure hbase hcheckout, hsum, rfl, fun _ => hdir version,
      by simp [hgit]⟩
  · rw [fetchDirectory] at h
    obtain ⟨isDir, w₁, hisDir, h⟩ := attempt_bind_ok_iff.mp h
    rw [attempt_onFiles_ok_iff, perform_isDirectory] at hisDir
    obtain ⟨-, rfl⟩ := Prod.mk.inj hisDir
    split_ifs at h
    · obtain ⟨sum, w₂, hsum, h⟩ := attempt_bind_ok_iff.mp h
      obtain ⟨hentry, rfl⟩ := Prod.mk.inj h
      obtain rfl := Except.ok.inj hentry
      obtain rfl := eq_of_directoryChecksum hsum
      exact ⟨_, .directory (by simpa using hgit) rfl, hsum, rfl, by simp [hgit], fun _ => rfl⟩
    · exact absurd h (by simp)

/-! ### Programs of lessons -/

/-- White space around a recorded version does not matter. -/
lemma lessonDir_trim (home name version : Text) :
    lessonDir home name version.trim = lessonDir home name version := by
  rw [lessonDir, Path.safeElement_trim, ← lessonDir]

lemma resolveMain_of_lessonRoot {t : Target} {lock : Option Lockfile} {root : Text}
    (ht : t.lesson ≠ []) (hlesson : manifest.lessons.get? t.lesson = some (some lesson))
    (hroot : manifest.lessonRoot lesson lock home = some root) :
    manifest.resolveMain (some t) lock home = .ok (Path.join [root, t.main]) := by
  rw [Manifest.resolveMain_of_declared ht hlesson, hroot]

/-- **Fetching and running agree on where a lesson is.** When a lesson was fetched, and its entry was
recorded, saved and loaded, then every program of the lesson is looked up in the directory that the
lesson was left in and whose checksum was recorded. The names of the lockfile that the entry goes to
are keys, as they are in every lockfile that can come about (`Lockfile.Kept.keyed`). -/
theorem fetched_lesson_located {entry : LockedLesson} {lock written : Lockfile}
    {w w₁ w₂ w₃ : World ρ} (hhome : Path.isAbsolute home = true)
    (hfetch : w.attempt (fetchLesson manifest home lesson) = (.ok entry, w₁)) (hlock : lock.Keyed)
    (hsave : w₂.perform ((lock.upsert entry).save manifest.lockfilePath) = ((.ok (), written), w₃))
    (hread : written.ReadsBack) :
    ∃ read dir, w₃.perform (loadLockfile manifest.lockfilePath) = (.ok read, w₃)
      ∧ LeftIn manifest home lesson w w₁ dir
      ∧ w₁.attempt (directoryChecksum dir) = (.ok entry.checksum, w₁)
      ∧ ∀ t : Target, t.lesson ≠ [] → manifest.lessons.get? t.lesson = some (some lesson) →
          manifest.resolveMain (some t) (some read) home = .ok (Path.join [dir, t.main]) := by
  obtain ⟨dir, hleft, hsum, hname, hgit, hpath⟩ := left_of_fetchLesson hhome hfetch
  obtain ⟨read, hload, hfind⟩ :=
    loaded_of_saved manifest.lockfilePath_ne_nil (Lockfile.keyed_upsert hlock entry) hsave hread
  have hfound : read.find? lesson.name = some entry.normalize := by
    rw [hfind, Lockfile.recorded_upsert hlock, if_pos (by rw [hname])]
  have hroot : manifest.lessonRoot lesson (some read) home = some dir := by
    rw [Manifest.lessonRoot]
    split_ifs with h
    · rw [Option.bind_some, hfound, Option.map_some, ← hgit h]
      exact congrArg some (lessonDir_trim home lesson.name entry.version)
    · rw [hpath (by simpa using h)]
  exact ⟨read, dir, hload, hleft, hsum, fun t ht hlesson =>
    resolveMain_of_lessonRoot ht hlesson hroot⟩

/-! ### An instance -/

/-- The name of a commit. -/
def tourHash : Text := utf8 "4f1a7c0d9be2360581fa4e2d7b93c6a05e8d1f42"

/-- A commit with one program. -/
def tourCommit : Commit := ⟨tourHash, utf8 "tour", [(utf8 "stop.dada", utf8 "say 1\n")]⟩

/-- A project that has one lesson, and the directory of a repository. -/
def tourDisk : Disk where
  entries := [([utf8 "p"], .directory),
    ([utf8 "p", utf8 "dada.yml"],
      .file (utf8 "name: p\nlessons:\n  tour:\n    git: /r\n    rev: '@'\n")),
    ([utf8 "r"], .directory)]

/-- A world with that project and the repository of its lesson. -/
def tourWorld (home : Text) : World :=
  { disk := tourDisk
    directory := utf8 "/p"
    settings := [(homeVariable, home)]
    repositories := [([utf8 "r", utf8 ".git"],
      { commits := [tourCommit]
        references := [(utf8 "refs/heads/master", tourHash)]
        head := .reference (utf8 "refs/heads/master") })] }

/-- The lesson in that repository, pinned to the commit that is checked out there. -/
def tourLesson : Lesson := { name := utf8 "tour", git := utf8 "/r", rev := utf8 "@" }

/-- A project that has the lesson. -/
def tourManifest : Manifest :=
  { path := utf8 "/p/dada.yml"
    dir := utf8 "/p"
    name := utf8 "p"
    lessons := [(utf8 "tour", some tourLesson)] }

/-- What is recorded when the lesson is fetched. -/
def tourEntry : LockedLesson :=
  ⟨utf8 "tour", utf8 "@@" ++ tourHash, utf8 "git+/r@" ++ tourHash,
    utf8 "47d55deeb844833bc93437660c635f62a2c56b023a95fef65c1eea0b4eed1219"⟩

set_option maxRecDepth 100000 in
/-- The one program of the tour is found where the tour was checked out. -/
theorem fetched_lesson_located_tour :
    ∃ w₁ w₃ written, (tourWorld (utf8 "/h")).attempt
          (fetchLesson tourManifest (utf8 "/h") tourLesson) = (.ok tourEntry, w₁)
      ∧ w₁.perform ((Lockfile.upsert {} tourEntry).save tourManifest.lockfilePath)
          = ((.ok (), written), w₃)
      ∧ ∃ read dir, w₃.perform (loadLockfile tourManifest.lockfilePath) = (.ok read, w₃)
        ∧ LeftIn tourManifest (utf8 "/h") tourLesson (tourWorld (utf8 "/h")) w₁ dir
        ∧ tourManifest.resolveMain
            (some { name := utf8 "t", main := utf8 "stop.dada", lesson := utf8 "tour" })
            (some read) (utf8 "/h") = .ok (Path.join [dir, utf8 "stop.dada"]) := by
  have hfetch : (tourWorld (utf8 "/h")).attempt (fetchLesson tourManifest (utf8 "/h") tourLesson)
      = (.ok tourEntry,
          ((tourWorld (utf8 "/h")).attempt (fetchLesson tourManifest (utf8 "/h") tourLesson)).2) :=
    Prod.ext (by decide +kernel) rfl
  have hsave : ((tourWorld (utf8 "/h")).attempt
        (fetchLesson tourManifest (utf8 "/h") tourLesson)).2.perform
        ((Lockfile.upsert {} tourEntry).save tourManifest.lockfilePath)
      = ((.ok (), { path := utf8 "/p/dada.lock", lessons := [some tourEntry] }),
          (((tourWorld (utf8 "/h")).attempt
            (fetchLesson tourManifest (utf8 "/h") tourLesson)).2.perform
              ((Lockfile.upsert {} tourEntry).save tourManifest.lockfilePath)).2) :=
    Prod.ext (by decide +kernel) rfl
  have hread : Lockfile.ReadsBack { path := utf8 "/p/dada.lock", lessons := [some tourEntry] } := by
    unfold Lockfile.ReadsBack
    decide +kernel
  have hkeyed : Lockfile.Keyed {} := by simp [Lockfile.Keyed, Lockfile.entries]
  obtain ⟨read, dir, hload, hleft, -, hmain⟩ :=
    fetched_lesson_located (by decide) hfetch hkeyed hsave hread
  exact ⟨_, _, _, hfetch, hsave, read, dir, hload, hleft, hmain _ (by decide) (by decide)⟩

end World

end LessonLang
