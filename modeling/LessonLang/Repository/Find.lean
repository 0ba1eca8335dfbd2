import LessonLang.Disk
import LessonLang.Repository

/-!
Finding repositories on a disk.

* `Keeper` is who hands out repositories of a machine: a disk, the directory it works in, and the
  places of the histories that repositories consist of.
* `Keeper.find` follows a path to a history. The path may lead to a directory with a history in it, to
  the history itself, or to either without the ending of its name, and a file may point at a history
  elsewhere. A tilde at the start stands for the home directory.
* Whatever the keeper has to complain about is one line of a message: `CloneFault.ofComplaint`.
-/

namespace LessonLang

/-- Complaints about paths without a repository have this in them. -/
def noRepositoryPhrase : Text := utf8 "does not appear to be a git repository"

/-- What a complaint says: its first line, in which control characters are not shown. The message as a
whole has a limited length. -/
def CloneFault.ofComplaint (message : Text) : CloneFault :=
  let isHidden (b : UInt8) := (b < 0x20 && b != 0x09 && b != 0x0a) || b == 0x7f
  let shown := (message.take 4095).map fun b => if isHidden b then 0x3f else b
  let line := shown.takeWhile (· != 0x0a)
  if noRepositoryPhrase.occursIn line then .notFound else .refused line

/-- Who hands out repositories. -/
structure Keeper where
  disk : Disk
  directory : Text
  home : Option Text
  /-- the places of the histories -/
  histories : List (List Text)

namespace Keeper

/-- A complaint that ends the search. -/
def fatal {α : Type} (words : String) (subject : Text) : Except CloneFault α :=
  .error (.ofComplaint (utf8 "fatal: " ++ utf8 words ++ subject))

/-- The complaint that there is no repository at a path. -/
def noRepository {α : Type} (path : Text) : Except CloneFault α :=
  fatal "'" (path ++ utf8 "' " ++ noRepositoryPhrase)

/-- A path without slashes at its end. -/
def withoutSlashes (path : Text) : Text :=
  match path with
  | [] => []
  | b :: rest => b :: (rest.reverse.dropWhile (· == Path.slash)).reverse

/-- A path with the home directory in the place of a tilde. Homes of others are not known. -/
def expanded? (k : Keeper) (path : Text) : Option Text :=
  match path with
  | 0x7e :: rest =>
    if rest.isEmpty || rest.head? == some Path.slash then k.home.map (· ++ rest) else none
  | path => some path

/-- The paths where the history for a path is looked for, in this order. -/
def candidates (path : Text) : List Text :=
  let ending := Disk.historyName
  let inside := Path.slash :: ending
  [path ++ inside, path, path ++ ending ++ inside, path ++ ending]

/-- The place of the history that a path leads to. -/
def history? (k : Keeper) (path : Text) : Option (List Text) :=
  match k.disk.locate k.directory path with
  | .ok place => if k.histories.contains place then some place else none
  | .error _ => none

/-- Follows a file to the history that it points at. -/
def followLink (k : Keeper) (path content : Text) : Except CloneFault (List Text) :=
  let mark := utf8 "gitdir: "
  let isEnd (b : UInt8) := b == 0x0a || b == 0x0d
  let target := ((content.drop mark.length).reverse.dropWhile isEnd).reverse
  let full := if Path.isAbsolute target then target
    else (path.reverse.dropWhile (· != Path.slash)).reverse ++ target
  if 1048576 < content.length then
    fatal "too large to be a .git file: '" (path ++ utf8 "'")
  else if !content.startsWith mark then fatal "invalid gitfile format: " path
  else if target.isEmpty then fatal "no path in gitfile: " path
  else match k.history? full with
    | some place => .ok place
    | none => fatal "not a git repository: " full

/-- Looks for a history at the first path where there is a file or a history. -/
def search (k : Keeper) : List Text → Option (Except CloneFault (List Text))
  | [] => none
  | path :: rest =>
    match k.disk.entry k.directory path with
    | .ok (.file content) => some (k.followLink path content)
    | _ =>
      match k.history? path with
      | some place => some (.ok place)
      | none => k.search rest

/-- The options that the keeper knows. -/
def options : List Text :=
  ["stateless-rpc", "http-backend-info-refs", "advertise-refs", "strict", "timeout"].map utf8

/-- The complaint about a path that is taken for an option. -/
def optionComplaint (option : Text) : Text :=
  let quoted (t : Text) := 0x60 :: t ++ [0x27]
  let usage := utf8 "usage: git-upload-pack [--[no-]strict] [--timeout=<n>] [--stateless-rpc]"
  match option with
  | 0x2d :: 0x2d :: name =>
    let asked := (Text.cut 0x3d name).1
    let isKnown := asked.isEmpty
      || options.any fun o => o.startsWith asked || (utf8 "no-" ++ o).startsWith asked
    if isKnown then usage else utf8 "error: unknown option " ++ quoted name
  | option => utf8 "error: unknown switch " ++ quoted ((option.drop 1).take 1)

/-- Finds the history that a path means. -/
def find (k : Keeper) (path : Text) : Except CloneFault (List Text) :=
  let short := withoutSlashes path
  if path.contains 0 then .error .unusablePath
  else if path.head? == some 0x2d && path != [0x2d] then .error (.ofComplaint (optionComplaint path))
  else if 4096 ≤ short.length then noRepository path
  else match (k.expanded? short).bind fun p => k.search (candidates p) with
    | some found => found
    | none => noRepository path

end Keeper

end LessonLang
