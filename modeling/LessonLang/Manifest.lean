import LessonLang.Lockfile
import LessonLang.Table
import LessonLang.Text.Fold
import LessonLang.Text.Quoted

/-!
Manifests, which describe a project.

* `ManifestFields` is what a manifest file says; `Manifest.ofFields` turns it into a `Manifest`, where
  names are keys and every target has one entry.
* `Manifest.issues` lists what is wrong with a manifest, in a fixed order.
* `Manifest.defaultTarget`, `Manifest.findTarget?` and `Manifest.findLesson?` select from it.
* `Manifest.resolveMain` finds the program file of a target.
-/

namespace LessonLang

/-- The name of a manifest in its project. -/
def manifestName : Text := utf8 "dada.yml"

/-- A target as it is written down. -/
structure TargetFields where
  main : Text := []
  inputs : List Text := []
  lesson : Text := []
  deriving DecidableEq, Repr, Inhabited

/-- What a manifest file says: the targets with their names, in order, and the lessons by key. A lesson
may be declared with nothing behind it. -/
structure ManifestFields where
  name : Text := []
  version : Text := []
  authors : List Text := []
  targets : List (Text × TargetFields) := []
  lessons : Table (Option Lesson) := []
  deriving DecidableEq

/-- A program that can be run. `name` is its key and `label` its name as it was written; `inputs` answer
its prompts, and `lesson` is the key of the lesson that holds it, or empty. -/
structure Target where
  name : Text := []
  label : Text := []
  main : Text := []
  inputs : List Text := []
  lesson : Text := []
  deriving DecidableEq, Repr, Inhabited

/-- A project: its targets by key, with the order in which they were written, and its lessons by
key. -/
structure Manifest where
  path : Text := []
  dir : Text := []
  name : Text := []
  version : Text := []
  authors : List Text := []
  targets : Table Target := []
  order : List Text := []
  lessons : Table (Option Lesson) := []
  deriving DecidableEq, Repr

/-- The target that one entry describes. -/
def Target.ofFields (name : Text) (f : TargetFields) : Target :=
  { name := keyOf name.trim, label := name.trim, main := f.main.trim, inputs := f.inputs,
    lesson := keyOf f.lesson }

/-- What is wrong with a manifest. -/
inductive Issue where
  | noName
  | blankAuthor (index : Nat)
  | noMain (target : Text)
  | unknownLesson (target lesson : Text)
  | lesson (key : Text) (issue : LessonIssue)
  deriving DecidableEq, Repr

/-- The issue in words. -/
def Issue.message : Issue → Text
  | noName => utf8 "name must be provided"
  | blankAuthor i => utf8 "authors[" ++ Text.ofNat i ++ utf8 "] must be a non-empty string"
  | noMain t => utf8 "target " ++ t.quoted ++ utf8 " requires a main entrypoint"
  | unknownLesson t l => utf8 "target " ++ t.quoted ++ utf8 " references unknown lesson " ++ l.quoted
  | lesson key i => utf8 "lessons." ++ key ++ utf8 ": " ++ i.message

/-- The message for a manifest with the given issues. -/
def validationMessage (issues : List Text) : Text :=
  if issues.isEmpty then utf8 "manifest: invalid configuration"
  else utf8 "manifest validation failed:" ++ issues.flatMap fun i => utf8 "\n- " ++ i

/-- Why the program of a target cannot be found. -/
inductive ResolveError where
  | noTarget
  | unknownLesson (target lesson : Text)
  /-- the lesson was declared with nothing behind it: a failure that no message is made for -/
  | nothingDeclared
  | notFetched (target lesson : Text)
  deriving DecidableEq, Repr

/-- The error in words. -/
def ResolveError.message : ResolveError → Text
  | noTarget => utf8 "manifest: nil target"
  | unknownLesson t l => utf8 "target " ++ t.quoted ++ utf8 ": unknown lesson " ++ l.quoted
  | nothingDeclared => utf8 "runtime error: invalid memory address or nil pointer dereference"
  | notFetched t l =>
    utf8 "target " ++ t.quoted ++ utf8 ": lesson " ++ l.quoted
      ++ utf8 " is not fetched; run `dada fetch " ++ l ++ [0x60]

namespace Manifest

/-- Adds a target, unless there is one of that name already. -/
def addTarget (m : Manifest) (entry : Text × TargetFields) : Manifest :=
  let t := Target.ofFields entry.1 entry.2
  if m.targets.has t.name then m
  else { m with targets := m.targets.set t.name t, order := m.order ++ [t.name] }

/-- The manifest that a file at `path` describes. -/
def ofFields (path : Text) (f : ManifestFields) : Manifest :=
  let base : Manifest :=
    { path, dir := Path.dir path, name := keyOf f.name, version := f.version.trim,
      authors := f.authors.map Text.trim, lessons := f.lessons }
  f.targets.foldl addTarget base

/-- The targets in the order in which they were written. -/
def orderedTargets (m : Manifest) : List Target := m.order.filterMap m.targets.get?

/-- What is wrong with one target. -/
def targetIssues (m : Manifest) (t : Target) : List Issue :=
  (if t.main.isEmpty then [.noMain t.label] else [])
    ++ (if !t.lesson.isEmpty && !m.lessons.has t.lesson then [.unknownLesson t.label t.lesson]
        else [])

/-- Everything that is wrong with a manifest: its name, its authors, its targets in their order, and
its lessons in the order of their keys. -/
def issues (m : Manifest) : List Issue :=
  (if m.name.isEmpty then [.noName] else [])
    ++ (m.authors.zipIdx.filterMap fun (a, i) => if a.isEmpty then some (.blankAuthor i) else none)
    ++ m.orderedTargets.flatMap m.targetIssues
    ++ m.lessons.filterMap fun (key, l) => (l.bind Lesson.issue?).map (.lesson key)

/-- The target that is run when none is named: the first one. -/
def defaultTarget (m : Manifest) : Option (Option Target) := m.order.head?.map m.targets.get?

/-- The message for a manifest without targets. -/
def noTargetsMessage : Text := utf8 "manifest: no targets defined"

/-- The target of a name: by its key, or else the first one that was written like it up to letter
case. -/
def findTarget? (m : Manifest) (name : Text) : Option Target :=
  (m.targets.get? (keyOf name.trim)).or
    (m.orderedTargets.find? fun t => t.label.eqFold name.trim)

/-- The lesson of a name. -/
def findLesson? (m : Manifest) (name : Text) : Option Lesson := (m.lessons.get? (keyOf name)).join

/-- A path as it is meant in a manifest: from the directory of the manifest. -/
def resolvePath (m : Manifest) (p : Text) : Text :=
  if Path.isAbsolute p then p else Path.join [m.dir, p]

/-- The directory of a lesson: its own, or the checkout of the version that the lockfile records. -/
def lessonRoot (m : Manifest) (l : Lesson) (lock : Option Lockfile) (home : Text) : Option Text :=
  if l.isGit then
    (lock.bind fun k => k.find? l.name).map fun e => lessonDir home l.name e.version
  else some (m.resolvePath l.path)

/-- The program file of a target. -/
def resolveMain (m : Manifest) (target : Option Target) (lock : Option Lockfile) (home : Text) :
    Except ResolveError Text :=
  match target with
  | none => .error .noTarget
  | some t =>
    if t.lesson.isEmpty then .ok (m.resolvePath t.main)
    else match m.lessons.get? t.lesson with
      | none => .error (.unknownLesson t.label t.lesson)
      | some none => .error .nothingDeclared
      | some (some l) =>
        match m.lessonRoot l lock home with
        | none => .error (.notFetched t.label l.name)
        | some root => .ok (Path.join [root, t.main])

end Manifest

end LessonLang
