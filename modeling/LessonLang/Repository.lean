import LessonLang.Address
import LessonLang.Pattern.Search
import LessonLang.Revision.Parse
import LessonLang.Table

/-!
Repositories.

* A `Commit` has a name, a message and a tree of files, and its parent is the commit in front of it.
* A `Repository` has commits, references to them, and a head, which is what was checked out last.
* `Repository.clone` is what another repository knows after it has fetched one: the branches become
  branches of the other place, and the head stays what it was, as far as that can be told.
* `Repository.resolve` finds the commit that a revision means: its name is that of a commit, or any of
  the names that go for a reference.
-/

namespace LessonLang

/-- A state of a repository. The tree has the paths and contents of files. -/
structure Commit where
  name : Text
  message : Text
  tree : List (Text × Text)
  deriving DecidableEq, Repr

/-- What is checked out: what a reference points at, or a commit by its name. -/
inductive Head where
  | reference (name : Text)
  | commit (name : Text)
  deriving DecidableEq, Repr

/-- Commits, the oldest first, and the names of those that references point at. -/
structure Repository where
  commits : List Commit
  references : Table Text
  head : Head

/-- Why a repository cannot be cloned. -/
inductive CloneFault where
  | address (f : AddressFault)
  /-- nobody vouches for the user of a secure shell -/
  | noAgent
  | unusablePath
  | notFound
  /-- the complaint of whoever keeps the repository -/
  | refused (complaint : Text)
  | empty
  | noHead
  deriving DecidableEq, Repr

/-- The fault in words. -/
def CloneFault.message : CloneFault → Text
  | address f => f.message
  | noAgent =>
    utf8 "error creating SSH agent: "
      ++ (utf8 "SSH agent requested but SSH_AUTH_SOCK not-specified").quoted
  | unusablePath => utf8 "fork/exec /usr/bin/git-upload-pack: invalid argument"
  | notFound => utf8 "repository not found"
  | refused complaint => utf8 "unknown error: " ++ complaint
  | empty => utf8 "remote repository is empty"
  | noHead => utf8 "reference not found"

/-- Why a revision means no commit of a repository. -/
inductive ResolveFault where
  | spelling (i : RevisionIssue)
  | notFound
  | noParent
  | noMessage (pattern : Text)
  deriving DecidableEq, Repr

/-- The fault in words. -/
def ResolveFault.message : ResolveFault → Text
  | spelling i => i.message
  | notFound => utf8 "reference not found"
  | noParent => utf8 "EOF"
  | noMessage pattern => utf8 "no commit message match regexp: " ++ pattern.quoted

namespace Repository

/-- The name of the commit that is checked out. -/
def headCommit? (r : Repository) : Option Text :=
  match r.head with
  | .reference name => r.references.get? name
  | .commit name => some name

/-! ### Clones -/

/-- The start of the names of branches. -/
def branches : Text := utf8 "refs/heads/"

/-- The start of the names of tags. -/
def tags : Text := utf8 "refs/tags/"

/-- The start of the names of branches of the place that a repository was cloned from. -/
def remoteBranches : Text := utf8 "refs/remotes/origin/"

/-- The branch that is called for if nothing else is. -/
def mainBranch : Text := branches ++ utf8 "master"

/-- The reference that the head is taken for: the one it names, or else the main branch or the first
reference with the same commit. -/
def headReference? (r : Repository) : Option Text :=
  match r.head with
  | .reference name => if r.references.has name then some name else none
  | .commit name =>
    (mainBranch :: r.references.keys).find? fun n => r.references.get? n == some name

/-- The name of a reference in a clone. -/
def clonedName? (name : Text) : Option Text :=
  if name.startsWith branches then some (remoteBranches ++ name.drop branches.length)
  else if name.startsWith tags then some name
  else none

/-- A copy of a repository for another place. Its only branch is the one that the head is taken for;
if that is no branch, the head is a commit. -/
def clone (r : Repository) : Except CloneFault Repository :=
  if r.references.isEmpty then .error .empty
  else
    match r.headReference?, r.headCommit? with
    | some name, some commit =>
      let references := Table.ofList (r.references.filterMap fun (n, c) =>
        (clonedName? n).map fun n => (n, c))
      if name.startsWith branches then
        .ok { r with references := references.set name commit, head := .reference name }
      else .ok { r with references, head := .commit commit }
    | _, _ => .error .noHead

/-! ### Revisions -/

/-- What the name of a reference may leave out, in the order in which it is tried. -/
def referenceForms (name : Text) : List Text :=
  [name, utf8 "refs/" ++ name, utf8 "refs/tags/" ++ name, utf8 "refs/heads/" ++ name,
   utf8 "refs/remotes/" ++ name, utf8 "refs/remotes/" ++ name ++ utf8 "/HEAD"]

/-- The name of the commit that a reference points at. -/
def reference? (r : Repository) (name : Text) : Option Text :=
  (referenceForms name).findSome? fun n =>
    if n == utf8 "HEAD" then r.headCommit? else r.references.get? n

/-- The place of a commit among all. -/
def position? (r : Repository) (name : Text) : Option Nat :=
  r.commits.findIdx? fun c => c.name == name

/-- The place of the commit that a name means: the commit of that name, or else what a reference of
that name points at. -/
def named? (r : Repository) (name : Text) : Option Nat :=
  (r.position? name).or ((r.reference? name).bind r.position?)

/-- The message of a commit is one that a search looks for. -/
def hasMessage (s : MessageSearch) (c : Commit) : Bool :=
  s.negated != s.pattern.occursIn (c.message.pieces.map fun p => Char.ofNat p.codePoint)

/-- The last commit with a given property among the first `n`. -/
def lastBefore? (r : Repository) (p : Commit → Bool) (n : Nat) : Option Nat :=
  (List.range n).reverse.find? fun i => r.commits[i]?.any p

/-- Goes from the commit at place `i` so many commits back. Every commit but the first has one
parent. -/
def back (i count : Nat) : Except ResolveFault Nat :=
  if i < count then .error .noParent else .ok (i - count)

/-- Follows one part of a revision from the commit that the parts in front of it mean. Parts that
select no commit keep it. -/
def follow (r : Repository) (at? : Option Nat) (p : RevisionPart) :
    Except ResolveFault (Option Nat) :=
  match p, at? with
  | .name t, _ =>
    match r.named? t with
    | some i => .ok (some i)
    | none => .error .notFound
  | .back n, some i => (back i n).map some
  | .parent n, some i => if 1 < n then .error .noParent else (back i n).map some
  | .message s, some i =>
    match r.lastBefore? (hasMessage s) (i + 1) with
    | some j => .ok (some j)
    | none => .error (.noMessage s.written)
  | _, _ => .ok at?

/-- The commit that a revision means. -/
def resolve (r : Repository) (revision : Text) : Except ResolveFault Commit :=
  match Revision.ofText revision with
  | .error i => .error (.spelling i)
  | .ok parts =>
    match parts.foldlM r.follow none with
    | .error f => .error f
    | .ok found =>
      match found.bind fun i => r.commits[i]? with
      | some c => .ok c
      | none => .error .notFound

/-- The commit of a name. -/
def commit? (r : Repository) (name : Text) : Option Commit := r.commits.find? fun c => c.name == name

end Repository

end LessonLang
