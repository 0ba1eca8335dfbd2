import LessonLang.Path

/-!
Lessons, the collections of programs that a project can use.

* A `Lesson` lives in a repository, pinned to a revision, a tag or a branch, or in a directory of its
  own.
* `Lesson.issue?` says what is wrong with a lesson as it was declared.
* `Pin.revisions` lists the names under which the pinned commit is looked up, of which the first counts
  that means a commit (`firstMeant`), and `pinnedVersion` is the version that is recorded for it.
* `lessonDir` is where a version of a lesson is checked out.
-/

namespace LessonLang

/-- The key of a name: surrounding white space does not count, and dashes are low lines. -/
def keyOf (name : Text) : Text := name.trim.replace 0x2d 0x5f

/-- Where the programs of a lesson come from. Fields that were not given are empty. -/
structure Lesson where
  name : Text := []
  git : Text := []
  rev : Text := []
  tag : Text := []
  branch : Text := []
  path : Text := []
  deriving DecidableEq, Repr, Inhabited

/-- What is wrong with a lesson. -/
inductive LessonIssue where
  | gitAndPath
  | neitherGitNorPath
  | pinnedPath
  | notOnePin
  deriving DecidableEq, Repr

/-- The issue in words. -/
def LessonIssue.message : LessonIssue → Text
  | gitAndPath => utf8 "lessons cannot specify both git and path"
  | neitherGitNorPath => utf8 "must specify git or path"
  | pinnedPath => utf8 "path lessons cannot specify rev, tag, or branch"
  | notOnePin => utf8 "git lessons require exactly one of rev, tag, or branch"

/-- What selects a commit of a repository. -/
inductive Pin where
  | rev (r : Text)
  | tag (t : Text)
  | branch (b : Text)
  deriving DecidableEq, Repr

namespace Pin

/-- The name that was given for the commit. -/
def descriptor : Pin → Text
  | rev r => r
  | tag t => t
  | branch b => b

/-- The revisions to try, in order. After a clone, a branch is known as the remote's branch, and only
the remote's main branch also as a local one. -/
def revisions : Pin → List Text
  | rev r => [r]
  | tag t => [utf8 "refs/tags/" ++ t]
  | branch b => [utf8 "refs/remotes/origin/" ++ b, utf8 "refs/heads/" ++ b]

end Pin

/-- What the first of several revisions means that means anything, or else why the last one means
nothing. -/
def firstMeant (resolve : Text → Except Text Text) : List Text → Except Text Text
  | [] => .error []
  | [revision] => resolve revision
  | revision :: rest =>
    match resolve revision with
    | .ok commit => .ok commit
    | .error _ => firstMeant resolve rest

namespace Lesson

/-- The lesson is kept in a repository. -/
def isGit (l : Lesson) : Bool := !l.git.isEmpty

/-- The pins that were given. -/
def pins (l : Lesson) : List Text := [l.rev, l.tag, l.branch].filter fun p => !p.isEmpty

/-- What is wrong with a lesson, if anything. -/
def issue? (l : Lesson) : Option LessonIssue :=
  if !l.git.isEmpty && !l.path.isEmpty then some .gitAndPath
  else if l.git.isEmpty && l.path.isEmpty then some .neitherGitNorPath
  else if !l.path.isEmpty && 0 < l.pins.length then some .pinnedPath
  else if !l.git.isEmpty && l.pins.length != 1 then some .notOnePin
  else none

/-- The pin that counts: a revision before a tag before a branch. -/
def pin? (l : Lesson) : Option Pin :=
  if !l.rev.isEmpty then some (.rev l.rev)
  else if !l.tag.isEmpty then some (.tag l.tag)
  else if !l.branch.isEmpty then some (.branch l.branch)
  else none

/-- The message for a lesson in a repository that has no pin. -/
def noPinMessage : Text := utf8 "git lessons require rev, tag, or branch"

end Lesson

/-- The version recorded for a commit that was found under a name. -/
def pinnedVersion (descriptor commit : Text) : Text :=
  if commit.isEmpty then descriptor
  else if descriptor.isEmpty || descriptor == commit then commit
  else descriptor ++ 0x40 :: commit

/-- The directory under `home` that holds all versions of a lesson. -/
def lessonBase (home name : Text) : Text :=
  Path.join [home, utf8 "lessons", Path.safeElement name]

/-- The directory under `home` that holds one version of a lesson. -/
def lessonDir (home name version : Text) : Text :=
  Path.join [home, utf8 "lessons", Path.safeElement name, Path.safeElement version]

end LessonLang
