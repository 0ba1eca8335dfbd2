import LessonLang.Proofs.Lockfile
import LessonLang.Proofs.Manifest
import LessonLang.Proofs.World

/-!
The files of a project on the disk.

* A lockfile that was saved is loaded again with what it recorded (`World.loaded_of_saved`), provided
  that its text is read back as it was written.
* A manifest that was loaded stands in the directory that it names
  (`World.exists_read_of_currentManifest`).
-/

namespace LessonLang

lemma Manifest.lockfilePath_ne_nil (manifest : Manifest) : manifest.lockfilePath ≠ [] :=
  Path.join_ne_nil (p := lockfileName) (by simp) (by decide)

namespace World

variable {ρ : Type} [Git ρ] {w w' : World ρ} {path : Text} {lock written : Lockfile}

lemma perform_absolutePath (path : Text) :
    w.perform (absolutePath path) = (Path.absolute w.directory path, w) := rfl

lemma perform_save (hpath : path ≠ []) (lock : Lockfile) :
    w.perform (lock.save path)
      = (match w.disk.write w.directory (Path.absolute w.directory path)
            (lock.stamp w.time (Path.absolute w.directory path)).toText with
          | .ok d =>
            ((.ok (), lock.stamp w.time (Path.absolute w.directory path)), { w with disk := d })
          | .error e =>
            ((.error (.file (Path.absolute w.directory path) e),
              lock.stamp w.time (Path.absolute w.directory path)), w)) := by
  have hempty : path.isEmpty = false := by simpa using hpath
  rw [Lockfile.save]
  simp only [hempty, Bool.false_eq_true, if_false, perform_bind, perform_absolutePath,
    perform_now, perform_write]
  cases w.disk.write w.directory (Path.absolute w.directory path)
    (lock.stamp w.time (Path.absolute w.directory path)).toText <;> rfl

lemma perform_loadLockfile (hpath : path ≠ []) :
    w.perform (loadLockfile path)
      = (match w.disk.read w.directory (Path.absolute w.directory path) with
          | .ok content =>
            (Lockfile.ofText (Path.absolute w.directory path) content).mapError
              (.content (Path.absolute w.directory path))
          | .error e => .error (.file (Path.absolute w.directory path) e), w) := by
  have hempty : path.isEmpty = false := by simpa using hpath
  rw [loadLockfile]
  simp only [hempty, Bool.false_eq_true, if_false, perform_bind, perform_absolutePath, perform_read]
  cases w.disk.read w.directory (Path.absolute w.directory path) with
  | error e => rfl
  | ok content =>
      dsimp only
      cases Lockfile.ofText (Path.absolute w.directory path) content <;> rfl

/-- **A lockfile that was saved is loaded again** with what it recorded. -/
lemma loaded_of_saved (hpath : path ≠ []) (hlock : lock.Keyed)
    (hsave : w.perform (lock.save path) = ((.ok (), written), w')) (hread : written.ReadsBack) :
    ∃ read, w'.perform (loadLockfile path) = (.ok read, w')
      ∧ ∀ name, read.find? name = lock.recorded name := by
  rw [perform_save hpath] at hsave
  split at hsave
  · rename_i d hwrite
    obtain ⟨hwritten, rfl⟩ := Prod.mk.inj hsave
    obtain rfl := (Prod.mk.inj hwritten).2
    obtain ⟨read, hofText, hfind⟩ :=
      Lockfile.exists_ofText (lock.keyed_stamp _ _) hread (Path.absolute w.directory path)
    refine ⟨read, ?_, fun name => ?_⟩
    · rw [perform_loadLockfile hpath, Disk.read_of_write hwrite]
      dsimp only
      rw [hofText]
      rfl
    · rw [hfind, Lockfile.stamp, Lockfile.recorded_of_normalize, ← Lockfile.stamp,
        Lockfile.find?_stamp hlock]
  · exact absurd (Prod.mk.inj (Prod.mk.inj hsave).1).1 (by simp)

/-- A lockfile that is loaded or new is one that can come about, and to load it changes nothing. -/
lemma perform_loadOrNewLockfile (w : World ρ) (hpath : path ≠ []) (root tool : Text) :
    (w.perform (loadOrNewLockfile path root tool)).2 = w
      ∧ ∀ old, (w.perform (loadOrNewLockfile path root tool)).1 = .ok old →
        old.Kept ∧ (∀ name, old.recorded name = old.find? name)
          ∧ w.disk.entry w.directory (Path.absolute w.directory path) ≠ .ok .directory := by
  rcases h : w.perform (loadOrNewLockfile path root tool) with ⟨result, w'⟩
  rw [loadOrNewLockfile, perform_bind, perform_loadLockfile hpath, Disk.read] at h
  rcases hentry : w.disk.entry w.directory (Path.absolute w.directory path) with f | (content | _)
  · rw [hentry] at h
    dsimp only at h
    split_ifs at h
    · obtain ⟨rfl, rfl⟩ := Prod.mk.inj h
      refine ⟨rfl, fun old hold => ?_⟩
      obtain rfl := Except.ok.inj hold
      exact ⟨.new .., fun name => rfl, by simp⟩
    · obtain ⟨rfl, rfl⟩ := Prod.mk.inj h
      exact ⟨rfl, fun old hold => absurd hold (by simp)⟩
  · rw [hentry] at h
    dsimp only at h
    cases htext : Lockfile.ofText (Path.absolute w.directory path) content with
    | ok l =>
        rw [htext] at h
        obtain ⟨rfl, rfl⟩ := Prod.mk.inj h
        refine ⟨rfl, fun old hold => ?_⟩
        obtain rfl := Except.ok.inj hold
        obtain ⟨l', hl'⟩ := Lockfile.exists_of_ofText htext
        exact ⟨.ofText htext, fun name => hl' ▸ l'.recorded_of_normalize name, by simp⟩
    | error e =>
        rw [htext] at h
        obtain ⟨rfl, rfl⟩ := Prod.mk.inj h
        exact ⟨rfl, fun old hold => absurd hold (by simp)⟩
  · rw [hentry] at h
    obtain ⟨rfl, rfl⟩ := Prod.mk.inj h
    exact ⟨rfl, fun old hold => absurd hold (by simp)⟩

/-! ### Manifests -/

lemma Manifest.dir_of_ofText {path content : Text} {manifest : Manifest}
    (h : Manifest.ofText path content = .ok manifest) : manifest.dir = Path.dir path := by
  rw [Manifest.ofText] at h
  split at h
  · exact absurd h (by simp)
  · rename_i fields _
    obtain ⟨targets, order, hfields⟩ := Manifest.exists_ofFields path fields
    rw [Manifest.check] at h
    split at h
    · obtain rfl := Except.ok.inj h
      rw [hfields]
    · exact absurd h (by simp)

lemma perform_firstFile? (paths : List Text) : (w.perform (firstFile? paths)).2 = w := by
  induction paths with
  | nil => rfl
  | cons path rest ih =>
      rw [firstFile?, perform_bind, perform_isDirectory]
      dsimp only
      split
      · rfl
      · exact ih

lemma perform_loadManifest (w : World ρ) (path : Text) :
    (w.perform (loadManifest path)).2 = w
      ∧ ∀ manifest, (w.perform (loadManifest path)).1 = .ok manifest → ∃ content,
        w.disk.read w.directory (Path.absolute w.directory path) = .ok content
          ∧ manifest.dir = Path.dir (Path.absolute w.directory path) := by
  rcases h : w.perform (loadManifest path) with ⟨result, w'⟩
  rw [loadManifest] at h
  split_ifs at h
  · obtain ⟨rfl, rfl⟩ := Prod.mk.inj h
    exact ⟨rfl, fun manifest hm => absurd hm (by simp)⟩
  rw [perform_bind, perform_absolutePath, perform_bind, perform_read] at h
  dsimp only at h
  cases hread : w.disk.read w.directory (Path.absolute w.directory path) with
  | error e =>
      rw [hread] at h
      obtain ⟨rfl, rfl⟩ := Prod.mk.inj h
      exact ⟨rfl, fun manifest hm => absurd hm (by simp)⟩
  | ok content =>
      rw [hread] at h
      dsimp only at h
      cases htext : Manifest.ofText (Path.absolute w.directory path) content with
      | error e =>
          rw [htext] at h
          obtain ⟨rfl, rfl⟩ := Prod.mk.inj h
          exact ⟨rfl, fun manifest hm => absurd hm (by simp)⟩
      | ok m =>
          rw [htext] at h
          obtain ⟨rfl, rfl⟩ := Prod.mk.inj h
          exact ⟨rfl, fun manifest hm => ⟨content, rfl, by
            rw [← Except.ok.inj hm, Manifest.dir_of_ofText htext]⟩⟩

/-- **A manifest that was loaded** was read from a file in its directory. -/
lemma exists_read_of_currentManifest {manifest : Manifest}
    (h : (w.perform currentManifest).1 = some (.ok manifest)) :
    (w.perform currentManifest).2 = w ∧ ∃ path content,
      w.disk.read w.directory (Path.absolute w.directory path) = .ok content
        ∧ manifest.dir = Path.dir (Path.absolute w.directory path) := by
  have hfind : (w.perform (findManifest Path.here)).2 = w := by
    rw [findManifest, perform_bind, perform_absolutePath]
    exact perform_firstFile? _
  rw [currentManifest, perform_bind, hfind] at h ⊢
  cases hpath : (w.perform (findManifest Path.here)).1 with
  | none =>
      rw [hpath] at h
      exact absurd h (by simp)
  | some path =>
      rw [hpath] at h
      obtain ⟨hsame, hdir⟩ := perform_loadManifest w path
      obtain ⟨content, hcontent⟩ := hdir manifest (Option.some.inj h)
      exact ⟨hsame, path, content, hcontent⟩

lemma dir_ne_nil_of_currentManifest {manifest : Manifest}
    (h : (w.perform currentManifest).1 = some (.ok manifest)) : manifest.dir ≠ [] := by
  obtain ⟨-, path, content, -, hdir⟩ := exists_read_of_currentManifest h
  rw [hdir]
  exact Path.clean_ne_nil _

lemma perform_homeDirectory : (w.perform homeDirectory).2 = w := by
  rw [homeDirectory, perform_bind]
  dsimp only
  split_ifs <;> rfl

end World

end LessonLang
