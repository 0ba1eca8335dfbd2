import LessonLang.Diagnostic
import LessonLang.Lockfile.Read
import LessonLang.Lockfile.Write
import LessonLang.Manifest.Read
import LessonLang.Shell

/-!
The files of a project.

* `readTokens` and `readProgram` take a source file as far as its tokens and its tree.
* `findManifest` looks for the manifest of the project that a directory belongs to, and `loadManifest`
  reads it.
* `loadLockfile`, `loadOrNewLockfile` and `saveLockfile` read and write the lockfile.
* `homeDirectory` is where fetched lessons are kept, and `locateProgram` finds the program of a target
  there or in the project.

All of them work in any `Shell`.
-/

namespace LessonLang

variable {m : Type → Type} [Monad m] [Shell m]

/-- The path from the root that a path means. -/
def absolutePath (path : Text) : m Text := do
  pure (Path.absolute (← Shell.directory) path)

/-! ### Source files -/

/-- Reads and scans a source file. -/
def readTokens (path : Text) : m (Except Diagnostic (List Token)) := do
  match ← Shell.read (← absolutePath path) with
  | .error e => pure (.error (.other (utf8 "loader: read " ++ path ++ utf8 ": " ++ e.message)))
  | .ok content =>
    match tokenize content with
    | .error e => pure (.error (.source (some path) (.lex e)))
    | .ok tokens => pure (.ok tokens)

/-- Reads, scans and parses a source file. -/
def readProgram (path : Text) : m (Except Diagnostic Program) := do
  match ← readTokens path with
  | .error d => pure (.error d)
  | .ok tokens =>
    match Program.parse tokens with
    | .error e => pure (.error (.source (some path) (.parse e)))
    | .ok program => pure (.ok program)

/-! ### Manifests -/

/-- Why a manifest cannot be loaded. -/
inductive ManifestFileError where
  | emptyPath
  | file (path : Text) (e : FileError)
  | content (path : Text) (e : ManifestError)
  deriving DecidableEq, Repr

/-- A problem of a document that could be opened but not read. -/
def inputMessage (e : FileError) : Text := utf8 "yaml: input error: " ++ e.message

/-- The error in words. -/
def ManifestFileError.message : ManifestFileError → Text
  | emptyPath => utf8 "manifest: empty path"
  | file path e =>
    if e.operation = .reading then utf8 "manifest: parse " ++ path ++ utf8 ": " ++ inputMessage e
    else utf8 "manifest: open " ++ path ++ utf8 ": " ++ e.message
  | content path e => e.message path

/-- Reads and checks the manifest at a path. -/
def loadManifest (path : Text) : m (Except ManifestFileError Manifest) := do
  if path.isEmpty then pure (.error .emptyPath)
  else
    let path ← absolutePath path
    match ← Shell.read path with
    | .error e => pure (.error (.file path e))
    | .ok content =>
      match Manifest.ofText path content with
      | .error e => pure (.error (.content path e))
      | .ok manifest => pure (.ok manifest)

/-- The first of several paths that leads to a file. -/
def firstFile? : List Text → m (Option Text)
  | [] => pure none
  | path :: rest => do
    match ← Shell.isDirectory path with
    | .ok false => pure (some path)
    | _ => firstFile? rest

/-- The manifest of the project that a directory belongs to: the nearest one, in that directory or
around it. -/
def findManifest (dir : Text) : m (Option Text) := do
  firstFile? ((Path.upward (← absolutePath dir)).map fun d => Path.join [d, manifestName])

/-- Loads the manifest of the project that the current directory belongs to, if there is one. -/
def currentManifest : m (Option (Except ManifestFileError Manifest)) := do
  match ← findManifest Path.here with
  | none => pure none
  | some path => pure (some (← loadManifest path))

/-! ### Lockfiles -/

/-- Why a lockfile cannot be loaded. -/
inductive LockfileError where
  | emptyPath
  | file (path : Text) (e : FileError)
  | content (path : Text) (e : Yaml.DocumentError)
  deriving DecidableEq, Repr

namespace LockfileError

/-- The error in words. -/
def message : LockfileError → Text
  | emptyPath => utf8 "lockfile: empty path"
  | file path e =>
    if e.operation = .reading then utf8 "lockfile: parse " ++ path ++ utf8 ": " ++ inputMessage e
    else e.message
  | content path e => Lockfile.parseMessage path e

/-- There is no such file. -/
def isMissing : LockfileError → Bool
  | file _ e => e.fault = .missing
  | _ => false

end LockfileError

/-- Reads the lockfile at a path. -/
def loadLockfile (path : Text) : m (Except LockfileError Lockfile) := do
  if path.isEmpty then pure (.error .emptyPath)
  else
    let path ← absolutePath path
    match ← Shell.read path with
    | .error e => pure (.error (.file path e))
    | .ok content =>
      match Lockfile.ofText path content with
      | .error e => pure (.error (.content path e))
      | .ok lock => pure (.ok lock)

/-- Reads the lockfile at a path, or makes a new one if there is none. -/
def loadOrNewLockfile (path root tool : Text) : m (Except LockfileError Lockfile) := do
  match ← loadLockfile path with
  | .ok lock => pure (.ok lock)
  | .error e =>
    if e.isMissing then
      let now ← Shell.now
      pure (.ok { Lockfile.new now root tool with path })
    else pure (.error e)

/-- Why a lockfile cannot be saved. -/
inductive SaveError where
  | noLockfile
  | noPath
  | file (path : Text) (e : FileError)
  deriving DecidableEq, Repr

/-- The error in words. -/
def SaveError.message : SaveError → Text
  | noLockfile => utf8 "lockfile: nil lockfile"
  | noPath => utf8 "lockfile: missing path"
  | file path e => utf8 "lockfile: write " ++ path ++ utf8 ": " ++ e.message

/-- Writes a lockfile to a path, or to its own path if none is given. What is written is the lockfile
with the time and the path of the attempt; it is given back, also if the file cannot be written. -/
def Lockfile.save (lock : Lockfile) (path : Text) : m (Except SaveError Unit × Lockfile) := do
  let path := if path.isEmpty then lock.path else path
  if path.isEmpty then pure (.error .noPath, lock)
  else
    let path ← absolutePath path
    let lock := lock.stamp (← Shell.now) path
    match ← Shell.write path lock.toText with
    | .error e => pure (.error (.file path e), lock)
    | .ok () => pure (.ok (), lock)

/-- Writes a lockfile, if there is one. -/
def saveLockfile (lock : Option Lockfile) (path : Text) :
    m (Except SaveError Unit × Option Lockfile) := do
  match lock with
  | none => pure (.error .noLockfile, none)
  | some lock =>
    let (result, lock) ← lock.save path
    pure (result, some lock)

/-! ### Programs of targets -/

/-- The variable that names the home directory of the lessons. -/
def homeVariable : Text := utf8 "DADA_HOME"

/-- The directory in which fetched lessons are kept: the one that the variable names, or else one in
the home directory of the user. -/
def homeDirectory : m (Option Text) := do
  let chosen := (← Shell.setting homeVariable).trim
  if chosen.isEmpty then
    let user ← Shell.setting (utf8 "HOME")
    pure (if user.isEmpty then none else some (Path.join [user, utf8 ".dada"]))
  else some <$> absolutePath chosen

/-- The message for a missing home directory. -/
def noHomeMessage : Text := utf8 "resolve home directory: $HOME is not defined"

/-- Why the program of a target cannot be located. -/
inductive LocateError where
  | lockfile (e : LockfileError)
  | noHome
  | resolve (e : ResolveError)
  deriving DecidableEq, Repr

/-- The error in words. -/
def LocateError.message : LocateError → Text
  | lockfile e => e.message
  | noHome => noHomeMessage
  | resolve e => e.message

/-- The path of the lockfile next to a manifest. -/
def Manifest.lockfilePath (manifest : Manifest) : Text := Path.join [manifest.dir, lockfileName]

/-- The result of a look-up as that of a location. -/
def located : Except ResolveError Text → Except LocateError Text
  | .ok path => .ok path
  | .error e => .error (.resolve e)

/-- The program file of a target. The lockfile and the home directory only matter for a target in a
lesson. -/
def locateProgram (manifest : Manifest) (target : Target) : m (Except LocateError Text) := do
  if target.lesson.isEmpty then pure (located (manifest.resolveMain (some target) none []))
  else
    match ← loadLockfile manifest.lockfilePath with
    | .ok lock => withLock (some lock)
    | .error e => if e.isMissing then withLock none else pure (.error (.lockfile e))
where
  withLock (lock : Option Lockfile) : m (Except LocateError Text) := do
    match ← homeDirectory with
    | none => pure (.error .noHome)
    | some home => pure (located (manifest.resolveMain (some target) lock home))

end LessonLang
