import LessonLang.Pattern.Parse
import LessonLang.Text.Quoted

/-!
Revisions, the expressions that select a commit.

* A `Revision` is a list of parts: a name, entries of the log of a name, steps to commits before,
  searches for a message, and paths inside the tree of a commit.
* `Revision.check` says which parts may stand together. A name comes first or not at all.
* `RevisionIssue` is a reason why a text is no revision.
-/

namespace LessonLang

/-- What an entry of the log of a name is selected by. -/
inductive LogEntry where
  | date | number | tracked | push | checkout
  deriving DecidableEq, Repr

/-- A pattern that messages are searched for, as it was written. A negated search finds the messages
that the pattern does not occur in. -/
structure MessageSearch where
  written : Text
  pattern : Pattern
  negated : Bool
  deriving DecidableEq, Repr

/-- What a colon leads to: a path in the tree of a commit, a path in the index, or a commit that is
found by its message. -/
inductive ColonKind where
  | path | stagedPath | message
  deriving DecidableEq, Repr

/-- A part of a revision. -/
inductive RevisionPart where
  | name (t : Text)
  | log (e : LogEntry)
  /-- so many commits back -/
  | back (count : Nat)
  /-- the parent with this number; with zero, the commit itself -/
  | parent (number : Nat)
  /-- the object behind a tag -/
  | peeled
  /-- the first commit from here on back with such a message -/
  | message (s : MessageSearch)
  | colon (k : ColonKind)
  deriving DecidableEq, Repr

/-- A revision. -/
abbrev Revision := List RevisionPart

/-- What is wrong with a revision. -/
inductive RevisionIssue where
  | contains (t : Text)
  | startsWith (t : Text)
  | endsWith (t : Text)
  | emptyElement
  | lockEnding
  | noSuchParent (number : Text)
  | openCheckout
  | openLog
  | openBrace
  | badDate (t : Text)
  | unknownKind (t : Text)
  | reserved
  | badPattern (i : PatternIssue)
  | secondName
  | misplacedLog (e : LogEntry)
  | stepWithoutName
  | misplacedColon (k : ColonKind)
  deriving DecidableEq, Repr

/-- The forms that a log entry may have. -/
def LogEntry.forms : LogEntry → String
  | date => "<refname>@\x7b<ISO-8601 date>\x7d, @\x7b<ISO-8601 date>\x7d"
  | number => "<refname>@\x7b<n>\x7d, @\x7b<n>\x7d"
  | tracked =>
    "<refname>@\x7bupstream\x7d, @\x7bupstream\x7d, <refname>@\x7bu\x7d, @\x7bu\x7d"
  | push => "<refname>@\x7bpush\x7d, @\x7bpush\x7d"
  | checkout => "@\x7b-<n>\x7d"

/-- The forms that a part with a colon may have. -/
def ColonKind.forms : ColonKind → String
  | path => "<revision>:<path>"
  | stagedPath => ":<n>:<path>"
  | message => ":/<regexp>"

/-- The issue in words. -/
def RevisionIssue.message (i : RevisionIssue) : Text :=
  utf8 "Revision invalid : " ++ match i with
    | contains t => utf8 "must not contains \"" ++ t ++ [0x22]
    | startsWith t => utf8 "must not start with \"" ++ t ++ [0x22]
    | endsWith t => utf8 "must not end with \"" ++ t ++ [0x22]
    | emptyElement => utf8 "must not contains consecutively \"/\""
    | lockEnding => utf8 "cannot end with .lock"
    | noSuchParent n => 0x22 :: n ++ utf8 "\" found must be 0, 1 or 2 after \"^\""
    | openCheckout => utf8 "missing \"\x7d\" in @\x7b-n\x7d structure"
    | openLog => utf8 "missing \"\x7d\" in @\x7b<data>\x7d structure"
    | openBrace => utf8 "missing \"\x7d\" in ^\x7b<data>\x7d structure"
    | badDate t =>
      utf8 "wrong date \"" ++ t ++ utf8 "\" must fit ISO-8601 format : 2006-01-02T15:04:05Z"
    | unknownKind t => 0x22 :: t ++ utf8 "\" is not a valid revision suffix brace component"
    | reserved =>
      utf8 ("revision suffix brace component sequences starting with \"/!\" others than those "
        ++ "defined are reserved")
    | badPattern i => utf8 "revision suffix brace component, " ++ i.message
    | secondName => utf8 "reference must be defined once at the beginning"
    | misplacedLog e => utf8 "\"@\" statement is not valid, could be : " ++ utf8 e.forms
    | stepWithoutName =>
      utf8 "\"~\" or \"^\" statement must have a reference defined at the beginning"
    | misplacedColon k => utf8 "\":\" statement is not valid, could be : " ++ utf8 k.forms

namespace Revision

/-- A log entry may stand alone, and all but one kind also behind a name. `count` is the number of all
parts. -/
def allowsLog (named : Bool) (count : Nat) (e : LogEntry) : Bool :=
  count == 1 || (e != .checkout && named && count == 2)

/-- A part with a colon may stand alone, and a path also at the end of a revision with a name. -/
def allowsColon (named last : Bool) (count : Nat) (k : ColonKind) : Bool :=
  count == 1 || (k == .path && named && last)

/-- Checks the parts of a revision with `count` parts from one on. `named` says that a name has come
first. What follows a log entry in a good place is not looked at. -/
def checkFrom (count : Nat) : (first named : Bool) → Revision → Option RevisionIssue
  | _, _, [] => none
  | first, named, p :: rest =>
    match p with
    | .name _ => if first then checkFrom count false true rest else some .secondName
    | .log e => if allowsLog named count e then none else some (.misplacedLog e)
    | .back _ | .parent _ | .message _ =>
      if named then checkFrom count false named rest else some .stepWithoutName
    | .colon k =>
      if allowsColon named rest.isEmpty count k then checkFrom count false named rest
      else some (.misplacedColon k)
    | .peeled => checkFrom count false named rest

/-- What is wrong with the parts of a revision, if anything. -/
def check (r : Revision) : Option RevisionIssue := checkFrom r.length true false r

end Revision

end LessonLang
