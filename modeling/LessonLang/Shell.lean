import LessonLang.Disk

/-!
What commands can do.

* `Shell m` lists the actions that commands are built from: files, variables, the console, the clock and
  repositories. A command is written for any `m` that has them, so it runs on the machine it was started
  on and equally in a `World`, where everything it does can be looked at.
* Repositories are kept by others. A command only knows what these do for it: `Shell.clone` fetches a
  repository, `Shell.resolve` says which commit of it a revision means, and `Shell.checkOut` writes the
  files of a commit. Each of them may fail, with a reason in words.
-/

namespace LessonLang

/-- Why a commit is not checked out. -/
inductive CheckOutFault where
  /-- the repository has no files beside its history -/
  | worktree (reason : Text)
  | commit (reason : Text)
  | file (e : FileError)
  deriving DecidableEq, Repr

/-- The actions that commands are built from. -/
class Shell (m : Type → Type) where
  /-- a repository, as it was fetched -/
  Clone : Type
  /-- the directory that relative paths start from -/
  directory : m Text
  /-- the value of a variable, empty if it is not set -/
  setting : Text → m Text
  /-- the time, as it is recorded -/
  now : m Text
  /-- whether a path leads to a directory -/
  isDirectory : Text → m (Except FileError Bool)
  /-- the content of a file -/
  read : Text → m (Except FileError Text)
  /-- writes a file -/
  write : Text → Text → m (Except FileError Unit)
  /-- makes a directory and those around it -/
  makeDirectories : Text → m (Except FileError Unit)
  /-- makes a directory for a while inside another one, and takes it away again -/
  makeRoom : Text → m (Except FileError Unit)
  /-- the files below a directory with their paths from there -/
  files : Text → m (Except FileError (List (Text × Text)))
  /-- fetches the repository at an address -/
  clone : Text → m (Except Text Clone)
  /-- the name of the commit that a revision means -/
  resolve : Clone → Text → Except Text Text
  /-- checks the commit of a name out into a new directory, where the repository goes as well -/
  checkOut : Text → Clone → Text → m (Except CheckOutFault Unit)
  /-- writes to the console -/
  print : Text → m Unit
  /-- writes to the console for messages -/
  complain : Text → m Unit
  /-- the next line of the input with its ending, or what is left of it, or a problem of the input -/
  readLine : m (Except Text Text)

end LessonLang
