import LessonLang.Lesson

/-!
Lockfiles, which record the lessons that were fetched.

* `Lockfile` lists one entry a lesson; an entry may be missing in a lockfile that was put together by
  hand.
* `Lockfile.normalize` drops missing entries, cleans the fields and sorts by name.
* `Lockfile.find?` looks a lesson up and `Lockfile.upsert` adds or replaces one.

Names are compared by their keys, so `a-b` and `a_b` are one lesson.
-/

namespace LessonLang

/-- What is recorded of a fetched lesson. -/
structure LockedLesson where
  name : Text := []
  version : Text := []
  source : Text := []
  checksum : Text := []
  deriving DecidableEq, Repr, Inhabited

/-- A lockfile and the path it belongs to. -/
structure Lockfile where
  path : Text := []
  root : Text := []
  generated : Text := []
  tool : Text := []
  lessons : List (Option LockedLesson) := []
  deriving DecidableEq, Repr, Inhabited

/-- The name of a lockfile in its project. -/
def lockfileName : Text := utf8 "dada.lock"

/-- An entry with its key as name and without white space around its fields. -/
def LockedLesson.normalize (l : LockedLesson) : LockedLesson :=
  ⟨keyOf l.name, l.version.trim, l.source.trim, l.checksum.trim⟩

namespace Lockfile

/-- An empty lockfile made at the time `now`. -/
def new (now root tool : Text) : Lockfile :=
  { root := keyOf root, generated := now, tool := tool.trim }

/-- The entries that are there. -/
def entries (l : Lockfile) : List LockedLesson := l.lessons.filterMap id

/-- The entries cleaned and in increasing order of their names; of equal names the first stays
first. -/
def sortedEntries (l : Lockfile) : List LockedLesson :=
  (l.entries.map LockedLesson.normalize).mergeSort fun a b => !(b.name < a.name)

/-- A lockfile in its regular form. -/
def normalize (l : Lockfile) : Lockfile :=
  { l with root := keyOf l.root, tool := l.tool.trim, lessons := l.sortedEntries.map some }

/-- The first entry under the key of a name. -/
def find? (l : Lockfile) (name : Text) : Option LockedLesson :=
  l.entries.find? fun e => e.name == keyOf name

/-- Puts `e` in the place of the first entry with its name. -/
def replaceFirst (e : LockedLesson) : List (Option LockedLesson) → List (Option LockedLesson)
  | [] => []
  | some x :: rest => if x.name == e.name then some e :: rest else some x :: replaceFirst e rest
  | none :: rest => none :: replaceFirst e rest

/-- Records a lesson: in the place of the entry of that name, or as a new entry. -/
def upsert (l : Lockfile) (e : LockedLesson) : Lockfile :=
  let e := { e with name := keyOf e.name }
  if l.entries.any fun x => x.name == e.name then { l with lessons := replaceFirst e l.lessons }
  else normalize { l with lessons := l.lessons ++ [some e] }

/-- A lockfile about to be written to `path` at the time `now`. -/
def stamp (l : Lockfile) (now path : Text) : Lockfile :=
  normalize { l with generated := now, path }

end Lockfile

end LessonLang
