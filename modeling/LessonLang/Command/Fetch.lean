import LessonLang.Command.Run
import LessonLang.Sha256

/-!
The fetch command.

* `fetchLesson` brings one lesson to where programs are looked up, and gives the entry to be recorded:
  a lesson in a repository is checked out in the home directory, and one in a directory stays where it
  is.
* `fetchCommand` fetches several lessons and records them in the lockfile. The lockfile is written
  once, after all of them succeeded.
-/

namespace LessonLang

variable {m : Type → Type} [Monad m] [Shell m]

/-- The name and version of the program, as it is recorded. -/
def toolVersion : Text := utf8 "dada-cli 0.1.0"

/-! ### One lesson -/

/-- Why a lesson cannot be fetched. -/
inductive FetchError where
  | file (e : FileError)
  | notDirectory (path : Text)
  | noPin
  | clone (url reason : Text)
  | revision (descriptor reason : Text)
  | worktree (reason : Text)
  | checkOut (descriptor reason : Text)
  deriving DecidableEq, Repr

/-- The error in words. -/
def FetchError.message : FetchError → Text
  | file e => e.message
  | notDirectory path => utf8 "expected directory at " ++ path
  | noPin => Lesson.noPinMessage
  | clone url reason => utf8 "git clone " ++ url ++ utf8 ": " ++ reason
  | revision descriptor reason => utf8 "resolve revision " ++ descriptor ++ utf8 ": " ++ reason
  | worktree reason => reason
  | checkOut descriptor reason => utf8 "git checkout " ++ descriptor ++ utf8 ": " ++ reason

/-- Why the commit that a pin selects is not there. -/
def FetchError.ofCheckOut (descriptor : Text) : CheckOutFault → FetchError
  | .worktree reason => .worktree reason
  | .commit reason => .checkOut descriptor reason
  | .file e => .file e

/-- An action on files as a part of fetching. -/
def onFiles {α : Type} (action : m (Except FileError α)) : ExceptT FetchError m α :=
  ExceptT.mk do
    match ← action with
    | .ok a => pure (.ok a)
    | .error e => pure (.error (.file e))

/-- Whether there is anything at a path. -/
def isThere (path : Text) : ExceptT FetchError m Bool :=
  ExceptT.lift do
    match ← Shell.isDirectory path with
    | .ok _ => pure true
    | .error _ => pure false

/-- What a checksum is made of: of each file, its path and its content. -/
def checksumInput (files : List (Text × Text)) : Text :=
  files.flatMap fun (path, content) => path ++ content

/-- The checksum of a collection of files. -/
def checksum (files : List (Text × Text)) : Text := Sha256.hex (checksumInput files)

/-- The checksum of the files below a directory. -/
def directoryChecksum (dir : Text) : ExceptT FetchError m Text := do
  pure (checksum (← onFiles (Shell.files dir)))

/-- Fetches a lesson in a directory: it stays there. -/
def fetchDirectory (manifest : Manifest) (lesson : Lesson) : ExceptT FetchError m LockedLesson := do
  let dir := manifest.resolvePath lesson.path
  if ← onFiles (Shell.isDirectory dir) then
    let sum ← directoryChecksum dir
    pure ⟨lesson.name, utf8 "path", utf8 "path:" ++ dir, sum⟩
  else throw (.notDirectory dir)

/-- The repository at an address. -/
def cloneRepository (url : Text) : ExceptT FetchError m (Shell.Clone m) :=
  ExceptT.mk do
    match ← Shell.clone url with
    | .ok r => pure (.ok r)
    | .error reason => pure (.error (.clone url reason))

/-- Checks out the commit that a pin selects. -/
def checkOutCommit (dir : Text) (repository : Shell.Clone m) (pin : Pin) (commit : Text) :
    ExceptT FetchError m Unit :=
  ExceptT.mk do
    match ← Shell.checkOut dir repository commit with
    | .ok () => pure (.ok ())
    | .error fault => pure (.error (.ofCheckOut pin.descriptor fault))

/-- Clones a repository and checks out the commit that a pin selects below `base`, unless its version
is there already. Gives the version and the name of the commit. -/
def checkOutPin (base : Text) (lesson : Lesson) (pin : Pin) :
    ExceptT FetchError m (Text × Text) := do
  onFiles (Shell.makeRoom base)
  let repository ← cloneRepository lesson.git
  match firstMeant (Shell.resolve repository) pin.revisions with
  | .error reason => throw (.revision pin.descriptor reason)
  | .ok commit =>
    let version := pinnedVersion pin.descriptor commit
    let dir := Path.join [base, Path.safeElement version]
    if !(← isThere dir) then checkOutCommit dir repository pin commit
    pure (version, commit)

/-- Makes sure that the pinned version of a lesson is checked out below `base`. A version that is named
by a revision and is there already is not looked up again. -/
def ensureCheckout (base : Text) (lesson : Lesson) : ExceptT FetchError m (Text × Text) := do
  onFiles (Shell.makeDirectories base)
  match lesson.pin? with
  | none => throw .noPin
  | some (.rev r) =>
    if ← isThere (Path.join [base, Path.safeElement r]) then pure (r, r)
    else checkOutPin base lesson (.rev r)
  | some pin => checkOutPin base lesson pin

/-- Fetches a lesson. -/
def fetchLesson (manifest : Manifest) (home : Text) (lesson : Lesson) :
    ExceptT FetchError m LockedLesson := do
  if lesson.isGit then
    let (version, commit) ← ensureCheckout (lessonBase home lesson.name) lesson
    let sum ← directoryChecksum (lessonDir home lesson.name version)
    pure ⟨lesson.name, version, utf8 "git+" ++ lesson.git ++ 0x40 :: commit, sum⟩
  else fetchDirectory manifest lesson

/-! ### The command -/

/-- Fetches lessons one after the other and records them, up to the first that fails. -/
def fetchAll (manifest : Manifest) (home : Text) :
    List Text → Lockfile → m (Except Text Lockfile)
  | [], lock => pure (.ok lock)
  | name :: rest, lock => do
    match manifest.findLesson? name with
    | none => pure (.error (utf8 "unknown lesson " ++ name.quoted))
    | some lesson =>
      match ← (fetchLesson manifest home lesson).run with
      | .error e => pure (.error (utf8 "fetch " ++ lesson.name ++ utf8 ": " ++ e.message))
      | .ok entry =>
        let lock := lock.upsert entry
        printLine (utf8 "fetched " ++ keyOf entry.name ++ 0x20 :: entry.version)
        fetchAll manifest home rest lock

/-- Fetches the named lessons of a project and saves the lockfile. -/
def fetchInto (manifest : Manifest) (home : Text) (names : List Text) : m ExitCode := do
  match ← loadOrNewLockfile manifest.lockfilePath manifest.name toolVersion with
  | .error e => giveUp e.message
  | .ok lock =>
    match ← fetchAll manifest home names { lock with tool := toolVersion } with
    | .error message => giveUp message
    | .ok lock =>
      match ← lock.save manifest.lockfilePath with
      | (.error e, _) => giveUp e.message
      | (.ok (), _) => pure 0

/-- Fetches the named lessons, or all of them in the order of their names. -/
def fetchCommand (args : List Text) : m ExitCode := do
  match ← currentManifest with
  | none => giveUp (utf8 "dada fetch requires dada.yml in the current directory or a parent")
  | some (.error e) => giveUp (utf8 "failed to load manifest: " ++ e.message)
  | some (.ok manifest) =>
    match ← homeDirectory with
    | none => giveUp noHomeMessage
    | some home =>
      match if args.isEmpty then manifest.lessons.keys else args with
      | [] =>
        printLine (utf8 "no lessons to fetch")
        pure 0
      | names => fetchInto manifest home names

end LessonLang
