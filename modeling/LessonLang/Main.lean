import Std.Time.DateTime.Timestamp
import LessonLang.Command
import LessonLang.Timestamp

/-!
The program.

`main` carries out its command line on the machine it was started on: this module says what the actions
of a `Shell` do there. It reaches no repositories of its own, so a lesson in a repository has to be
checked out in the home directory beforehand.
-/

namespace LessonLang

namespace Console

/-- The string of a text. -/
def string (t : Text) : String := (String.fromUTF8? ⟨t.toArray⟩).getD ""

/-- The bytes of an array as a text. -/
def ofBytes (b : ByteArray) : Text := b.data.toList

/-- The place of a path. -/
def place (path : Text) := do
  return (← IO.currentDir) / string path

/-- The fault behind an error of the machine. -/
def fault : IO.Error → FileFault
  | .inappropriateType .. => .notDirectory
  | .permissionDenied .. => .refused (utf8 "permission denied")
  | _ => .missing

/-- Tries an action on a path. -/
def attempt {α : Type} (operation : FileOperation) (path : Text) (action : IO α) :
    IO (Except FileError α) := do
  try
    return .ok (← action)
  catch e =>
    return .error ⟨operation, path, fault e⟩

/-- Whether a path leads to a directory. -/
def isDirectory (path : Text) : IO (Except FileError Bool) :=
  attempt .stat path do
    return (← (← place path).metadata).type == .dir

/-- The content of a file. -/
def read (path : Text) : IO (Except FileError Text) := do
  if ← (← place path).isDir then return .error ⟨.reading, path, .isDirectory⟩
  attempt .opening path do
    return ofBytes (← IO.FS.readBinFile (← place path))

/-- Writes a file. -/
def write (path content : Text) : IO (Except FileError Unit) := do
  if ← (← place path).isDir then return .error ⟨.opening, path, .isDirectory⟩
  attempt .opening path (do IO.FS.writeBinFile (← place path) ⟨content.toArray⟩)

/-- The files below a directory with their paths from there, in the order of their names. -/
partial def filesBelow (dir relative : Text) : IO (List (Text × Text)) := do
  let entries ← (← place dir).readDir
  let names := entries.toList.map fun e => utf8 e.fileName
  let mut found := []
  for name in names.mergeSort fun a b => !(b < a) do
    let path := Path.join [dir, name]
    let relative := Path.join [relative, name]
    if ← (← place path).isDir then
      if name != Disk.historyName then found := found ++ (← filesBelow path relative)
    else found := found ++ [(relative, ofBytes (← IO.FS.readBinFile (← place path)))]
  return found

/-- The files that a path leads to. -/
def files (path : Text) : IO (Except FileError (List (Text × Text))) :=
  attempt .lstat path do
    if !(← (← place path).isDir) then
      return [(Path.here, ofBytes (← IO.FS.readBinFile (← place path)))]
    else if Disk.namesHistory path then return []
    else filesBelow path []

/-- Makes a directory inside another one, and takes it away again. -/
def makeRoom (dir : Text) : IO (Except FileError Unit) :=
  let path := Path.join [dir, utf8 "git-fetch-0"]
  attempt .mkdir path do
    IO.FS.createDirAll (← place path)
    IO.FS.removeDir (← place path)

/-- Reads bytes up to a line feed or the end of the input. -/
partial def readLine (input : IO.FS.Stream) (line : Text) : IO Text := do
  match ofBytes (← input.read 1) with
  | [] => return line.reverse
  | b :: _ => if b == 0x0a then return (b :: line).reverse else readLine input (b :: line)

end Console

instance : Shell IO where
  Clone := Empty
  directory := do return utf8 (← IO.currentDir).toString
  setting name := do return utf8 ((← IO.getEnv (Console.string name)).getD "")
  now := do return Timestamp.text (← Std.Time.Timestamp.now).toSecondsSinceUnixEpoch.val.toNat
  isDirectory := Console.isDirectory
  read := Console.read
  write := Console.write
  makeDirectories path := Console.attempt .mkdir path do IO.FS.createDirAll (← Console.place path)
  files := Console.files
  makeRoom := Console.makeRoom
  clone _ := pure (.error (utf8 "repository not found"))
  resolve r _ := nomatch r
  checkOut _ r _ := nomatch r
  print text := do (← IO.getStdout).write ⟨text.toArray⟩
  complain text := do (← IO.getStderr).write ⟨text.toArray⟩
  readLine := do
    try
      return .ok (← Console.readLine (← IO.getStdin) [])
    catch e =>
      return .error (utf8 (toString e))

end LessonLang

/-- Carries out the command line. -/
def main (args : List String) : IO UInt32 :=
  LessonLang.command (Nat.pow 2 62) (args.map LessonLang.utf8)
