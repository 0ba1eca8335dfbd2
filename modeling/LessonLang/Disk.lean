import LessonLang.Path
import LessonLang.Table

/-!
Files and directories.

* `Disk` is a tree of files, as a table from paths to entries. A path is the list of its elements, and
  the table is sorted, so files are listed in the order of a walk that takes names in order.
* `Disk.locate` follows a written path. Unlike the cleaning of paths it looks at the entries it passes:
  each of them has to be a directory.
* A disk can refuse changes at some of its places. `Disk.barrier?` says why nothing can be written at a
  place: it is refused there, or in the directory that an entry would be new in.
* `Disk.read`, `Disk.write` and `Disk.makeDirectories` are what programs do with files. A `FileError`
  says which of them failed, where, and why.
-/

namespace LessonLang

/-- What a path can lead to. -/
inductive Entry where
  | file (content : Text)
  | directory
  deriving DecidableEq, Repr

/-- Why a path cannot be used. -/
inductive FileFault where
  | missing
  | notDirectory
  | isDirectory
  /-- nothing may be changed there, for the reason that the machine gives -/
  | refused (reason : Text)
  deriving DecidableEq, Repr

/-- The fault in words. -/
def FileFault.message : FileFault → Text
  | missing => utf8 "no such file or directory"
  | notDirectory => utf8 "not a directory"
  | isDirectory => utf8 "is a directory"
  | refused reason => reason

/-- What was tried with a path. -/
inductive FileOperation where
  | opening | reading | stat | lstat | mkdir
  deriving DecidableEq, Repr

/-- The name of an operation. -/
def FileOperation.name : FileOperation → Text
  | opening => utf8 "open"
  | reading => utf8 "read"
  | stat => utf8 "stat"
  | lstat => utf8 "lstat"
  | mkdir => utf8 "mkdir"

/-- An operation that failed. -/
structure FileError where
  operation : FileOperation
  path : Text
  fault : FileFault
  deriving DecidableEq, Repr

/-- The error in words. -/
def FileError.message (e : FileError) : Text :=
  e.operation.name ++ 0x20 :: e.path ++ utf8 ": " ++ e.fault.message

/-- A tree of files. The root is a directory and has no entry. -/
structure Disk where
  entries : Table Entry (List Text) := []
  /-- the places where nothing may be changed, with the reasons -/
  refusals : Table Text (List Text) := []

namespace Disk

/-- The entry at a place. -/
def get? (d : Disk) (place : List Text) : Option Entry :=
  if place.isEmpty then some .directory else d.entries.get? place

/-- Puts an entry at a place. -/
def set (d : Disk) (place : List Text) (e : Entry) : Disk :=
  { d with entries := Table.set place e d.entries }

/-- Why nothing can be written at a place, if so. What is there may refuse to be changed, and if
nothing is there, then the directory around may refuse to have something new in it. -/
def barrier? (d : Disk) (place : List Text) : Option Text :=
  (d.refusals.get? place).or
    (if (d.get? place).isSome then none else d.refusals.get? place.dropLast)

/-- Follows one element of a path. -/
def follow (d : Disk) (place : List Text) (element : Text) : Except FileFault (List Text) :=
  match d.get? place with
  | none => .error .missing
  | some (.file _) => .error .notDirectory
  | some .directory =>
    if element.isEmpty || element == Path.here then .ok place
    else if element == Path.above then .ok place.dropLast
    else .ok (place ++ [element])

/-- The place that a written path leads to, from the directory `base`. There need not be anything
there. The empty path leads nowhere. -/
def locate (d : Disk) (base path : Text) : Except FileFault (List Text) :=
  let start := if Path.isAbsolute path then [] else Path.cleanElements base
  if path.isEmpty then .error .missing else (Path.elements path).foldlM d.follow start

/-- The entry that a path leads to. -/
def entry (d : Disk) (base path : Text) : Except FileFault Entry :=
  match d.locate base path with
  | .error f => .error f
  | .ok place =>
    match d.get? place with
    | some e => .ok e
    | none => .error .missing

/-- Whether a path leads to a directory. -/
def isDirectory (d : Disk) (base path : Text) : Except FileError Bool :=
  match d.entry base path with
  | .ok .directory => .ok true
  | .ok (.file _) => .ok false
  | .error f => .error ⟨.stat, path, f⟩

/-- The content of a file. A directory can be opened but not read. -/
def read (d : Disk) (base path : Text) : Except FileError Text :=
  match d.entry base path with
  | .ok (.file content) => .ok content
  | .ok .directory => .error ⟨.reading, path, .isDirectory⟩
  | .error f => .error ⟨.opening, path, f⟩

/-- Writes a file, new or not. -/
def write (d : Disk) (base path content : Text) : Except FileError Disk :=
  match d.locate base path with
  | .error f => .error ⟨.opening, path, f⟩
  | .ok place =>
    match d.get? place, d.barrier? place with
    | some .directory, _ => .error ⟨.opening, path, .isDirectory⟩
    | _, some reason => .error ⟨.opening, path, .refused reason⟩
    | _, none => .ok (d.set place (.file content))

/-- Makes directories, one inside the other, at the places that further elements lead to from `place`.
Fails at an element that leads to a file, or where nothing can be made, with the number of those behind
it. -/
def makeBelow (d : Disk) (place : List Text) : List Text → Except (Nat × FileFault) Disk
  | [] => .ok d
  | e :: rest =>
    match d.get? (place ++ [e]), d.barrier? (place ++ [e]) with
    | some (.file _), _ => .error (rest.length, .notDirectory)
    | some .directory, _ => makeBelow d (place ++ [e]) rest
    | none, some reason => .error (rest.length, .refused reason)
    | none, none => makeBelow (d.set (place ++ [e]) .directory) (place ++ [e]) rest

/-- Makes a directory and those around it. The path is clean. -/
def makeDirectories (d : Disk) (base path : Text) : Except FileError Disk :=
  match d.makeBelow [] (Path.cleanElements (Path.absolute base path)) with
  | .ok d => .ok d
  | .error (left, fault) =>
    let es := Path.cleanElements path
    let spelled := Text.join [Path.slash] (es.take (es.length - left))
    .error ⟨.mkdir, if Path.isAbsolute path then Path.slash :: spelled else spelled, fault⟩

/-- Whether a directory has room for a new one called `name`, which is taken away again. -/
def makeRoom (d : Disk) (base dir name : Text) : Except FileError Unit :=
  let path := Path.join [dir, name]
  match d.locate base dir with
  | .error f => .error ⟨.mkdir, path, f⟩
  | .ok place =>
    match d.refusals.get? place with
    | some reason => .error ⟨.mkdir, path, .refused reason⟩
    | none => .ok ()

/-- The name of directories that hold the history of a repository. -/
def historyName : Text := utf8 ".git"

/-- The files below a place with their paths from there, in order. Histories are left out. -/
def below (d : Disk) (place : List Text) : List (Text × Text) :=
  d.entries.filterMap fun (p, e) =>
    match e with
    | .directory => none
    | .file content =>
      let rest := p.drop place.length
      if place.isPrefixOf p && !rest.isEmpty && !(rest.dropLast.contains historyName) then
        some (Text.join [Path.slash] rest, content)
      else none

/-- A path that is written as one of a history. -/
def namesHistory (path : Text) : Bool :=
  ((Path.elements path).filter fun e => !e.isEmpty).getLast? == some historyName

/-- The files that a path leads to: those below a directory, or the file itself under the name of the
directory it is in. -/
def files (d : Disk) (base path : Text) : Except FileError (List (Text × Text)) :=
  match d.locate base path with
  | .error f => .error ⟨.lstat, path, f⟩
  | .ok place =>
    match d.get? place with
    | none => .error ⟨.lstat, path, .missing⟩
    | some (.file content) => .ok [(Path.here, content)]
    | some .directory =>
      if namesHistory path then .ok [] else .ok (d.below place)

end Disk

end LessonLang
