import LessonLang.Repository.Find
import LessonLang.Shell

/-!
A world for commands.

* `World` is everything that a command can see and change: files, settings, repositories, the input
  that is left and what was written to the console. What is known of a repository is a parameter.
* `Git` is what is done with repositories by those who keep them. In a world of values of `Repository`
  these are the ones on its disk.
* Commands run in a world as functions on its states, by the instance of `Shell` for `StateM World`.
-/

namespace LessonLang

/-- What a command can see and change, where `ρ` is what is known of a repository. -/
structure World (ρ : Type := Repository) where
  disk : Disk := {}
  directory : Text := [Path.slash]
  settings : Table Text := []
  /-- repositories by the places of their histories -/
  repositories : Table ρ (List Text) := []
  /-- the addresses that repositories were fetched from, the latest first -/
  asked : List Text := []
  time : Text := []
  /-- the name of directories that are made for a while -/
  passing : Text := utf8 "git-fetch-0"
  /-- the input that is left -/
  input : Text := []
  /-- the problem that the input ends with, if it does -/
  inputFault : Option Text := none
  /-- what was written to the console, the latest first -/
  printed : List Text := []
  /-- the messages that were written, the latest first -/
  complaints : List Text := []

/-- **What others do with repositories.** What a fetch gives can depend on everything in the world, and
so on what was fetched before. Reasons for failures are given in words. -/
class Git (ρ : Type) where
  /-- the repository at an address -/
  clone : World ρ → Text → Except Text ρ
  /-- the name of the commit that a revision means -/
  resolve : ρ → Text → Except Text Text
  /-- the paths and contents of the files of a commit, by its name, and the repository that has it
  checked out -/
  checkOut : ρ → Text → Except CheckOutFault (List (Text × Text) × ρ)

namespace World

variable {ρ : Type}

/-- What was written to the console. -/
def output (w : World ρ) : Text := w.printed.reverse.flatten

/-- The messages that were written. -/
def messages (w : World ρ) : Text := w.complaints.reverse.flatten

/-- The line at the start of a text, with its line feed. -/
def firstLine : Text → Text
  | [] => []
  | b :: rest => if b == 0x0a then [b] else b :: firstLine rest

/-- Takes a line off the input. A line that is cut off by a problem is lost. -/
def takeLine (w : World ρ) : Except Text Text × World ρ :=
  let line := firstLine w.input
  let w' := { w with input := w.input.drop line.length }
  match w.inputFault with
  | some problem => if line.getLast? == some 0x0a then (.ok line, w') else (.error problem, w')
  | none => (.ok line, w')

/-- Fetches a repository, and remembers its address. -/
def clone [Git ρ] (w : World ρ) (url : Text) : Except Text ρ × World ρ :=
  (Git.clone w url, { w with asked := url :: w.asked })

/-- Writes files below a directory. -/
def addFiles (base dir : Text) : List (Text × Text) → Disk → Except FileError Disk
  | [], d => .ok d
  | (path, content) :: rest, d =>
    let path := Path.join [dir, path]
    match d.makeDirectories base (Path.dir path) with
    | .error e => .error e
    | .ok d =>
      match d.write base path content with
      | .error e => .error e
      | .ok d => addFiles base dir rest d

/-- Writes the files of a commit into a new directory, next to the history. The repository there has
this commit checked out. -/
def checkOut [Git ρ] (w : World ρ) (dir : Text) (r : ρ) (commit : Text) :
    Except CheckOutFault Unit × World ρ :=
  match Git.checkOut r commit with
  | .error f => (.error f, w)
  | .ok (tree, kept) =>
    let history := Path.join [dir, Disk.historyName]
    let filled := do
      let d ← w.disk.makeDirectories w.directory history
      addFiles w.directory dir tree d
    match filled with
    | .error e => (.error (.file e), w)
    | .ok disk =>
      let place := Path.cleanElements (Path.absolute w.directory history)
      (.ok (), { w with disk, repositories := w.repositories.set place kept })

/-- Changes the disk of a world, if the change succeeds. -/
def change (w : World ρ) : Except FileError Disk → Except FileError Unit × World ρ
  | .ok disk => (.ok (), { w with disk })
  | .error e => (.error e, w)

end World

/-! ### Repositories on the disk -/

namespace Repository

/-- The keeper of the repositories of a world. -/
def keeper (w : World) : Keeper :=
  { disk := w.disk, directory := w.directory, home := w.settings.get? (utf8 "HOME"),
    histories := w.repositories.keys }

/-- Fetches a repository of a world. Other machines cannot be reached. -/
def fetch (w : World) (url : Text) : Except CloneFault Repository :=
  match Address.ofText url with
  | .error f => .error (.address f)
  | .ok .secureShell => .error .noAgent
  | .ok .network => .error .notFound
  | .ok (.path path) =>
    match (keeper w).find path with
    | .error f => .error f
    | .ok place =>
      match w.repositories.get? place with
      | none => .error .notFound
      | some r => r.clone

end Repository

instance : Git Repository where
  clone w url := (Repository.fetch w url).mapError CloneFault.message
  resolve r revision := ((r.resolve revision).map Commit.name).mapError ResolveFault.message
  checkOut r name :=
    match r.commit? name with
    | none => .error (.commit (utf8 "object not found"))
    | some c => .ok (c.tree, { r with head := .commit name })

/-! ### Commands in a world -/

instance {ρ : Type} [Git ρ] : Shell (StateM (World ρ)) where
  Clone := ρ
  directory := do pure (← get).directory
  setting name := do pure (((← get).settings.get? name).getD [])
  now := do pure (← get).time
  isDirectory path := do
    let w ← get
    pure (w.disk.isDirectory w.directory path)
  read path := do
    let w ← get
    pure (w.disk.read w.directory path)
  write path content := modifyGet fun w => w.change (w.disk.write w.directory path content)
  makeDirectories path := modifyGet fun w => w.change (w.disk.makeDirectories w.directory path)
  makeRoom path := do
    let w ← get
    pure (w.disk.makeRoom w.directory path w.passing)
  files path := do
    let w ← get
    pure (w.disk.files w.directory path)
  clone url := modifyGet fun w => w.clone url
  resolve := Git.resolve
  checkOut dir r commit := modifyGet fun w => w.checkOut dir r commit
  print text := modify fun w => { w with printed := text :: w.printed }
  complain text := modify fun w => { w with complaints := text :: w.complaints }
  readLine := modifyGet World.takeLine

end LessonLang
