import LessonLang.Calendar
import LessonLang.Revision
import LessonLang.Revision.Token

/-!
The written form of revisions.

* `Revision.nextPart` reads one part from the front of a list of tokens: a name, what an at sign, a
  tilde, a caret or a colon begins.
* `Revision.ofText` reads all parts and checks that they may stand together.

Names follow the rules for names of references, which `checkToken` goes through.
-/

namespace LessonLang

namespace Revision

open RevisionToken (take)

/-- The result of reading one part: the part, and the tokens behind it. -/
abbrev PartResult := Except RevisionIssue (RevisionPart × List RevisionToken)

/-! ### Names -/

/-- The name of the current commit. -/
def headName : Text := utf8 "HEAD"

/-- The ending that names of references must not have. -/
def lockName : Text := utf8 ".lock"

def dot : RevisionToken := .mark '.'
def slash : RevisionToken := .mark '/'
def openBrace : RevisionToken := .mark '{'
def closeBrace : RevisionToken := .mark '}'
def exclamation : RevisionToken := .mark '!'

/-- Tokens that end a name. -/
def endsName : RevisionToken → Bool
  | .finish => true
  | .mark c => ['@', ':', '~', '^'].contains c
  | _ => false

/-- Tokens that must not stand in a name. -/
def isForbidden : RevisionToken → Bool
  | .blank _ | .control _ => true
  | .mark c => ['\\', '?', '*', '['].contains c
  | _ => false

/-- Checks the next token behind the name `read`, whose last token is `last`. -/
def checkToken (last : Option RevisionToken) (read : Text) (t : RevisionToken) :
    Option RevisionIssue :=
  if isForbidden t then some (.contains t.text)
  else if (t == dot || t == slash) && read.isEmpty then some (.startsWith t.text)
  else if last == some slash && endsName t then some (.endsWith slash.text)
  else if last == some dot && endsName t then some (.endsWith dot.text)
  else if t == dot && last == some slash then some (.contains (slash.text ++ dot.text))
  else if t == dot && last == some dot then some (.contains (dot.text ++ dot.text))
  else if t == slash && last == some slash then some .emptyElement
  else if (t == slash || endsName t) && read.endsWith lockName then some .lockEnding
  else none

/-- Reads the rest of a name. -/
def nameFrom (last : Option RevisionToken) (read : Text) : List RevisionToken → PartResult
  | [] =>
    match checkToken last read .finish with
    | some i => .error i
    | none => .ok (.name read, [])
  | t :: rest =>
    match checkToken last read t with
    | some i => .error i
    | none =>
      if endsName t then .ok (.name read, t :: rest) else nameFrom (some t) (read ++ t.text) rest

/-! ### Numbers -/

/-- The bound of the numbers that are told apart. -/
def numberLimit : Nat := Nat.pow 2 64

/-- The value of a number. One that is not made of decimal digits counts as zero. -/
def numberValue (cs : List Char) : Nat :=
  let ds := cs.takeWhile Char.isDigit
  let n := ds.foldl (fun n d => 10 * n + (d.toNat - 0x30)) 0
  if ds.length == cs.length || numberLimit ≤ n then n else 0

/-! ### Log entries -/

/-- Reads a date up to the closing brace. -/
def dateFrom (read : Text) : List RevisionToken → PartResult
  | [] => .error .openLog
  | t :: rest =>
    if t == .finish then .error .openLog
    else if t == closeBrace then
      if isInstant read then .ok (.log .date, rest) else .error (.badDate read)
    else dateFrom (read ++ t.text) rest

/-- Reads what an opening brace behind an at sign begins. -/
def logEntry (ts : List RevisionToken) : PartResult :=
  let (t, rest) := take ts
  let (u, rest') := take rest
  match t, u with
  | .word _, .mark '}' =>
    if t.isWord "u" || t.isWord "upstream" then .ok (.log .tracked, rest')
    else if t.isWord "push" then .ok (.log .push, rest')
    else dateFrom t.text rest
  | .number _, .mark '}' => .ok (.log .number, rest')
  | .mark '-', .number _ =>
    let (v, rest'') := take rest'
    if v == closeBrace then .ok (.log .checkout, rest'') else .error .openCheckout
  | _, _ => dateFrom t.text rest

/-- Reads what an at sign begins. Alone it stands for the current commit. -/
def afterAt (ts : List RevisionToken) : PartResult :=
  let (t, rest) := take ts
  if t == openBrace then logEntry rest else .ok (.name headName, ts)

/-! ### Steps -/

/-- Reads the number behind a tilde, which is one if none is written. -/
def afterTilde (ts : List RevisionToken) : PartResult :=
  match take ts with
  | (.number cs, rest) => .ok (.back (numberValue cs), rest)
  | _ => .ok (.back 1, ts)

/-- Makes a search of a pattern, whose characters are given with the last one first. -/
def messageSearch (reversed : List Char) (negated : Bool) : Except RevisionIssue MessageSearch :=
  let written := reversed.reverse
  match Pattern.parse written with
  | .ok pattern => .ok ⟨Text.ofChars written, pattern, negated⟩
  | .error i => .error (.badPattern i)

/-- The kinds of objects that may be asked for. -/
def objectKinds : List String := ["commit", "tree", "blob", "tag", "object"]

/-- Reads what stands between braces behind a caret: a kind of object, nothing, or a pattern behind a
slash. `first` says that nothing was read yet, and `read` is the pattern so far, the last character
first. -/
def braceFrom (first negated : Bool) (read : List Char) : List RevisionToken → PartResult
  | [] => .error (if first then .unknownKind [] else .openBrace)
  | t :: rest =>
    let (u, rest') := take rest
    if u == closeBrace && objectKinds.any t.isWord then .ok (.peeled, rest')
    else if read.isEmpty && t == closeBrace then .ok (.peeled, rest')
    else if read.isEmpty && t == exclamation then
      match rest with
      | .mark '!' :: rest => braceFrom false negated ['!'] rest
      | .mark '-' :: rest => braceFrom false true [] rest
      | _ => .error .reserved
    else if read.isEmpty && t == slash then braceFrom false negated [] rest
    else if t != slash && first then .error (.unknownKind t.text)
    else if t == .finish then .error .openBrace
    else if t == closeBrace then
      (messageSearch read negated).map fun s => (.message s, rest)
    else braceFrom false negated (t.chars.reverse ++ read) rest

/-- Reads what a caret begins. -/
def afterCaret (ts : List RevisionToken) : PartResult :=
  match take ts with
  | (.mark '{', rest) => braceFrom true false [] rest
  | (.number cs, rest) =>
    if 2 < numberValue cs then .error (.noSuchParent (Text.ofChars cs))
    else .ok (.parent (numberValue cs), rest)
  | _ => .ok (.parent 1, ts)

/-! ### Colons -/

/-- Reads a pattern to the end of the revision; `read` are its characters so far, the last one
first. -/
def patternFrom (negated : Bool) (read : List Char) : List RevisionToken → PartResult
  | [] => (messageSearch read negated).map fun _ => (.colon .message, [])
  | .mark '!' :: .mark '!' :: rest => patternFrom negated ('!' :: read) rest
  | t :: rest =>
    if read.isEmpty && t == exclamation then
      match rest with
      | .mark '-' :: rest => patternFrom true [] rest
      | _ => .error .reserved
    else if t == .finish then
      (messageSearch read negated).map fun _ => (.colon .message, rest)
    else patternFrom negated (t.chars.reverse ++ read) rest

/-- What follows the end of the revision, or of a part of it that a NUL character ends. -/
def behindFinish (ts : List RevisionToken) : List RevisionToken :=
  (ts.dropWhile (· != .finish)).drop 1

/-- Reads what a colon begins. A number and a second colon lead to the index. -/
def afterColon (ts : List RevisionToken) : PartResult :=
  let (t, rest) := take ts
  if t == slash then patternFrom false [] rest
  else match t, rest with
    | .number _, .mark ':' :: rest' => .ok (.colon .stagedPath, behindFinish rest')
    | _, _ => .ok (.colon .path, behindFinish rest)

/-! ### Whole revisions -/

/-- Reads the part that starts with the token `t`. -/
def nextPart (t : RevisionToken) (rest : List RevisionToken) : PartResult :=
  match t with
  | .mark '@' => afterAt rest
  | .mark '~' => afterTilde rest
  | .mark '^' => afterCaret rest
  | .mark ':' => afterColon rest
  | t => nameFrom none [] (t :: rest)

/-- Reads all parts, up to the end of the revision. -/
def parts : (fuel : Nat) → List RevisionToken → Except RevisionIssue Revision
  | 0, _ => .ok []
  | _ + 1, [] => .ok []
  | fuel + 1, t :: rest =>
    if t == .finish then .ok []
    else match nextPart t rest with
      | .error i => .error i
      | .ok (p, rest) => (parts fuel rest).map (p :: ·)

/-- Reads a revision. -/
def ofText (t : Text) : Except RevisionIssue Revision :=
  let ts := RevisionToken.ofText t
  match parts (ts.length + 1) ts with
  | .error i => .error i
  | .ok r =>
    match check r with
    | some i => .error i
    | none => .ok r

end Revision

end LessonLang
