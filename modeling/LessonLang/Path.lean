import LessonLang.Text.Blank

/-!
File paths.

* `Path.clean` writes a path in its shortest form: no empty element, no `.`, and no `..` behind
  another name.
* `Path.join`, `Path.dir` and `Path.absolute` put paths together and take them apart; their results
  are clean.
* `Path.safeElement` turns any text into letters that are harmless in one element of a path.

All of this is about the spelling of paths. No file is looked at.
-/

namespace LessonLang

namespace Path

/-- The byte between the elements of a path. -/
def slash : UInt8 := 0x2f

/-- The element that names the directory itself. -/
def here : Text := [0x2e]

/-- The element that names the directory above. -/
def above : Text := [0x2e, 0x2e]

/-- A path that starts at the root. -/
def isAbsolute (p : Text) : Bool := p.head? == some slash

/-- The elements of a path, empty ones included. -/
def elements (p : Text) : List Text := p.split slash

/-- Adds one element to those collected so far, which are listed with the last one first. -/
def push (rooted : Bool) (stack : List Text) (e : Text) : List Text :=
  if e.isEmpty || e == here then stack
  else if e == above then
    match stack with
    | [] => if rooted then [] else [above]
    | top :: rest => if top == above then above :: top :: rest else rest
  else e :: stack

/-- The elements of a path that remain when it is cleaned. -/
def cleanElements (p : Text) : List Text :=
  ((elements p).foldl (push (isAbsolute p)) []).reverse

/-- The shortest spelling of a path. -/
def clean (p : Text) : Text :=
  let body := Text.join [slash] (cleanElements p)
  if isAbsolute p then slash :: body
  else if body.isEmpty then here
  else body

/-- The path through all the given ones, one below the other. Empty ones do not count. -/
def join (ps : List Text) : Text :=
  match ps.filter fun p => !p.isEmpty with
  | [] => []
  | ps => clean (Text.join [slash] ps)

/-- The directory that holds what a path names. -/
def dir (p : Text) : Text := clean (p.reverse.dropWhile (· != slash)).reverse

/-- A path from the root, for a path that is meant from `base`. -/
def absolute (base p : Text) : Text := if isAbsolute p then clean p else join [base, p]

/-- The directories around a path from the root, from that path itself up to the root. -/
def upward (p : Text) : List Text :=
  let es := cleanElements p
  (List.range (es.length + 1)).reverse.map fun n => slash :: Text.join [slash] (es.take n)

/-- A character that may stand in a safe element. -/
def isSafe (c : Char) : Bool := c.isAlphanum || c == '.' || c == '-' || c == '_'

/-- A text as one element of a path: unsafe characters become low lines, and a blank text gets a
name. -/
def safeElement (t : Text) : Text :=
  if t.trim.isEmpty then utf8 "head"
  else t.trim.pieces.map fun
    | .char c => if isSafe c then Text.byte c else 0x5f
    | .stray _ => 0x5f

end Path

end LessonLang
