import LessonLang.Command.Fetch
import LessonLang.Proofs.Disk
import LessonLang.World

/-!
Commands in a world.

* `World.perform` is what an action gives and the world it leaves. For an action that can fail it is
  `World.attempt`: what comes behind a failure is not done (`World.attempt_bind_ok_iff`).
* One lemma for each action of a shell says what it does, and one for each part of fetching what it
  comes to. What is done with repositories is up to `Git`, of which nothing is assumed here.
-/

namespace LessonLang

namespace World

variable {α β ε ρ : Type} {w w' : World ρ}

/-- What an action gives, and the world it leaves. -/
def perform (w : World ρ) (a : StateM (World ρ) α) : α × World ρ := a w

/-- What an action gives that can fail, and the world it leaves. -/
def attempt (w : World ρ) (a : ExceptT ε (StateM (World ρ)) α) : Except ε α × World ρ :=
  w.perform a.run

@[simp]
lemma perform_pure (x : α) : w.perform (pure x) = (x, w) := rfl

/-- One action after another. -/
@[simp]
lemma perform_bind (a : StateM (World ρ) α) (f : α → StateM (World ρ) β) :
    w.perform (a >>= f) = (w.perform a).2.perform (f (w.perform a).1) := rfl

@[simp]
lemma attempt_pure (x : α) :
    w.attempt (pure x : ExceptT ε (StateM (World ρ)) α) = (.ok x, w) := rfl

@[simp]
lemma attempt_throw (e : ε) :
    w.attempt (throw e : ExceptT ε (StateM (World ρ)) α) = (.error e, w) := rfl

/-- **One action after another**: the second is tried if the first does not fail. -/
lemma attempt_bind (a : ExceptT ε (StateM (World ρ)) α)
    (f : α → ExceptT ε (StateM (World ρ)) β) :
    w.attempt (a >>= f)
      = match w.attempt a with
        | (.ok x, w') => w'.attempt (f x)
        | (.error e, w') => (.error e, w') := by
  change w.perform (a.run >>= ExceptT.bindCont f) = _
  rw [perform_bind, attempt]
  rcases w.perform a.run with ⟨e | x, w'⟩ <;> rfl

/-- Actions that follow each other succeed if each of them does. -/
lemma attempt_bind_ok_iff {a : ExceptT ε (StateM (World ρ)) α}
    {f : α → ExceptT ε (StateM (World ρ)) β} {y : β} :
    w.attempt (a >>= f) = (.ok y, w')
      ↔ ∃ x w₁, w.attempt a = (.ok x, w₁) ∧ w₁.attempt (f x) = (.ok y, w') := by
  rw [attempt_bind]
  rcases w.attempt a with ⟨e | x, w₁⟩ <;> simp

/-- What cannot fail is tried by being done. -/
lemma attempt_lift (a : StateM (World ρ) α) :
    w.attempt (ExceptT.lift a : ExceptT ε (StateM (World ρ)) α)
      = (.ok (w.perform a).1, (w.perform a).2) := rfl

/-- There is something at a path. -/
def there (w : World ρ) (path : Text) : Bool := (w.disk.entry w.directory path).isOk

/-- An action on files is a part of fetching with its errors as errors of fetching. -/
lemma attempt_onFiles (a : StateM (World ρ) (Except FileError α)) :
    w.attempt (onFiles a) = ((w.perform a).1.mapError FetchError.file, (w.perform a).2) := by
  change w.perform (a >>= fun r => _) = _
  rw [perform_bind]
  rcases w.perform a with ⟨e | x, w'⟩ <;> rfl

/-- To work on files succeeds with what the shell gives. -/
lemma attempt_onFiles_ok_iff {a : StateM (World ρ) (Except FileError α)} {x : α} :
    w.attempt (onFiles a) = (.ok x, w') ↔ w.perform a = (.ok x, w') := by
  rw [attempt_onFiles]
  rcases w.perform a with ⟨e | y, w₁⟩ <;> simp [Except.mapError]

/-! ### What a shell does -/

variable [Git ρ]

lemma perform_now : w.perform Shell.now = (w.time, w) := rfl

lemma perform_isDirectory (path : Text) :
    w.perform (Shell.isDirectory path) = (w.disk.isDirectory w.directory path, w) := rfl

lemma perform_read (path : Text) :
    w.perform (Shell.read path) = (w.disk.read w.directory path, w) := rfl

lemma perform_write (path content : Text) :
    w.perform (Shell.write path content) = w.change (w.disk.write w.directory path content) := rfl

lemma perform_makeDirectories (path : Text) :
    w.perform (Shell.makeDirectories path)
      = w.change (w.disk.makeDirectories w.directory path) := rfl

lemma perform_makeRoom (path : Text) :
    w.perform (Shell.makeRoom path) = (w.disk.makeRoom w.directory path w.passing, w) := rfl

lemma perform_files (path : Text) :
    w.perform (Shell.files path) = (w.disk.files w.directory path, w) := rfl

lemma perform_clone (url : Text) : w.perform (Shell.clone url) = w.clone url := rfl

lemma perform_checkOut (dir : Text) (r : ρ) (commit : Text) :
    w.perform (Shell.checkOut dir r commit) = w.checkOut dir r commit := rfl

/-! ### Parts of fetching -/

/-- To look whether there is something at a path does not fail and changes nothing. -/
lemma attempt_isThere (path : Text) : w.attempt (isThere path) = (.ok (w.there path), w) := by
  rw [isThere, attempt_lift, perform_bind, perform_isDirectory, Disk.isDirectory, there]
  rcases w.disk.entry w.directory path with f | (content | _) <;> rfl

/-- To look whether there is something goes before what follows from it. -/
lemma attempt_isThere_bind (path : Text) (f : Bool → ExceptT FetchError (StateM (World ρ)) α) :
    w.attempt (isThere path >>= f) = w.attempt (f (w.there path)) := by
  rw [attempt_bind, attempt_isThere]

/-- To look for room changes nothing. -/
lemma attempt_makeRoom (path : Text) :
    w.attempt (onFiles (Shell.makeRoom path))
      = ((w.disk.makeRoom w.directory path w.passing).mapError FetchError.file, w) := by
  rw [attempt_onFiles, perform_makeRoom]

/-- **A repository is fetched** as those who keep it give it, and its address is remembered. -/
lemma attempt_cloneRepository (url : Text) :
    w.attempt (cloneRepository url)
      = ((w.clone url).1.mapError (FetchError.clone url), (w.clone url).2) := by
  change w.perform (Shell.clone url >>= fun r => _) = _
  rw [perform_bind, perform_clone]
  rcases w.clone url with ⟨e | r, w'⟩ <;> rfl

/-- To fetch a repository succeeds if it is given. -/
lemma attempt_cloneRepository_ok_iff {url : Text} {r : ρ} :
    w.attempt (cloneRepository url) = (.ok r, w') ↔ w.clone url = (.ok r, w') := by
  rw [attempt_cloneRepository]
  rcases w.clone url with ⟨e | r', w₁⟩ <;> simp [Except.mapError]

/-- Fetching a repository leaves all but the remembered addresses as it was. -/
lemma clone_eq_iff {url : Text} {r : Except Text ρ} :
    w.clone url = (r, w') ↔ Git.clone w url = r ∧ { w with asked := url :: w.asked } = w' :=
  Prod.mk_inj

/-- A commit is checked out with its faults as errors of fetching. -/
lemma attempt_checkOutCommit (dir : Text) (r : ρ) (pin : Pin) (commit : Text) :
    w.attempt (checkOutCommit dir r pin commit)
      = ((w.checkOut dir r commit).1.mapError (.ofCheckOut pin.descriptor),
          (w.checkOut dir r commit).2) := by
  change w.perform (Shell.checkOut dir r commit >>= fun x => _) = _
  rw [perform_bind, perform_checkOut]
  rcases w.checkOut dir r commit with ⟨e | ⟨⟩, w'⟩ <;> rfl

/-- A commit is checked out if the shell does so. -/
lemma attempt_checkOutCommit_ok_iff {dir commit : Text} {r : ρ} {pin : Pin} :
    w.attempt (checkOutCommit dir r pin commit) = (.ok (), w')
      ↔ w.checkOut dir r commit = (.ok (), w') := by
  rw [attempt_checkOutCommit]
  rcases w.checkOut dir r commit with ⟨e | ⟨⟩, w₁⟩ <;> simp [Except.mapError]

/-- To take a checksum changes nothing. -/
lemma eq_of_directoryChecksum {dir : Text} {r : Except FetchError Text}
    (h : w.attempt (directoryChecksum dir) = (r, w')) : w' = w := by
  rw [directoryChecksum, attempt_bind, attempt_onFiles, perform_files] at h
  cases hfiles : w.disk.files w.directory dir with
  | error e =>
      rw [hfiles] at h
      exact (Prod.mk.inj h).2.symm
  | ok files =>
      rw [hfiles] at h
      exact (Prod.mk.inj h).2.symm

end World

end LessonLang
