import LessonLang.Pattern.Form
import LessonLang.Pattern.Property

/-!
The written form of patterns.

* `PatternIssue` is a reason why a text is no pattern, together with the part of the text that shows
  it.
* `Pattern.parse` reads a pattern. It goes through the text once: `PatternReader` holds a stack of the
  forms so far, with marks where groups were opened and where an alternative ended.

Letters behind a backslash stand for sets of characters, for places or for single characters; a
group may start with letters that change how the rest of it is read. Patterns that are nested too deep
or too large are refused as soon as that shows.
-/

namespace LessonLang

/-- What can be wrong with a pattern. -/
inductive PatternIssueKind where
  | range | escape | name | group | nestedRepeat | repeatCount | openBracket | openParen
  | nothingToRepeat | lastBackslash | extraParen | tooDeep | tooLarge
  deriving DecidableEq, Repr

/-- Something wrong with a pattern, and the part where it shows. -/
structure PatternIssue where
  kind : PatternIssueKind
  part : List Char
  deriving DecidableEq, Repr

/-- The kind of issue in words. -/
def PatternIssueKind.words : PatternIssueKind → String
  | range => "invalid character class range"
  | escape => "invalid escape sequence"
  | name => "invalid named capture"
  | group => "invalid or unsupported Perl syntax"
  | nestedRepeat => "invalid nested repetition operator"
  | repeatCount => "invalid repeat count"
  | openBracket => "missing closing ]"
  | openParen => "missing closing )"
  | nothingToRepeat => "missing argument to repetition operator"
  | lastBackslash => "trailing backslash at end of expression"
  | extraParen => "unexpected )"
  | tooDeep => "expression nests too deeply"
  | tooLarge => "expression too large"

/-- The issue in words. -/
def PatternIssue.message (i : PatternIssue) : Text :=
  utf8 "error parsing regexp: " ++ utf8 i.kind.words ++ utf8 ": `" ++ Text.ofChars i.part ++ [0x60]

namespace Pattern

/-- The part of a text in front of the rest of it. -/
def upTo (rest whole : List Char) : List Char := whole.take (whole.length - rest.length)

/-! ### Sets of characters -/

/-- A set in normal form: all letter cases of its members, or what is not in it. -/
def formed (anyCase negated : Bool) (set : Ranges) : Ranges :=
  let set := if anyCase then set.anyCase else set.normalize
  if negated then set.complement else set

/-- The range of two characters. -/
def span (a b : Char) : Nat × Nat := (a.toNat, b.toNat)

def digitRanges : Ranges := [span '0' '9']
def lowerRanges : Ranges := [span 'a' 'z']
def upperRanges : Ranges := [span 'A' 'Z']
def alphaRanges : Ranges := upperRanges ++ lowerRanges
def wordRanges : Ranges := digitRanges ++ alphaRanges ++ [span '_' '_']

/-- The sets with a name between colons. -/
def namedSets : List (String × Ranges) :=
  [("alnum", digitRanges ++ alphaRanges), ("alpha", alphaRanges), ("ascii", [(0, 0x7f)]),
   ("blank", [(9, 9), (0x20, 0x20)]), ("cntrl", [(0, 0x1f), (0x7f, 0x7f)]), ("digit", digitRanges),
   ("graph", [(0x21, 0x7e)]), ("lower", lowerRanges), ("print", [(0x20, 0x7e)]),
   ("punct", [(0x21, 0x2f), (0x3a, 0x40), (0x5b, 0x60), (0x7b, 0x7e)]),
   ("space", [(9, 0xd), (0x20, 0x20)]), ("upper", upperRanges), ("word", wordRanges),
   ("xdigit", [span '0' '9', span 'A' 'F', span 'a' 'f'])]

/-- The sets that a letter behind a backslash stands for. -/
def letterSets : List (Char × Ranges) :=
  [('d', digitRanges), ('s', [(9, 0xa), (0xc, 0xd), (0x20, 0x20)]), ('w', wordRanges)]

/-- The set that a letter behind a backslash stands for; a capital letter means all the others. -/
def letterSet? (anyCase : Bool) (c : Char) : Option Ranges :=
  (letterSets.lookup c.toLower).map (formed anyCase c.isUpper)

/-- Reads the name of a property behind `\p` or `\P`, where `whole` is the text from the backslash
on. -/
def propertySet (anyCase negated : Bool) (whole : List Char) :
    Except PatternIssue (Ranges × List Char) :=
  let body := whole.drop 2
  let found : Option (List Char × List Char) :=
    match body with
    | '{' :: inner =>
      if inner.contains '}' then
        let name := inner.takeWhile (· != '}')
        some (name, inner.drop (name.length + 1))
      else none
    | c :: rest => some ([c], rest)
    | [] => some ([], [])
  match found with
  | none => .error ⟨.range, whole⟩
  | some (name, rest) =>
    let (turned, name) := match name with
      | '^' :: name => (true, name)
      | name => (false, name)
    match Property.members? name with
    | some set =>
      let set := if anyCase then set.anyCase else set
      .ok (if negated != turned then set.complement else set, rest)
    | none => .error ⟨.range, upTo rest whole⟩

/-! ### Escapes -/

/-- The value of a hexadecimal digit. -/
def hexDigit? (c : Char) : Option Nat :=
  if c.isDigit then some (c.toNat - 0x30)
  else if 'a' ≤ c && c ≤ 'f' then some (c.toNat - 0x57)
  else if 'A' ≤ c && c ≤ 'F' then some (c.toNat - 0x37)
  else none

/-- An octal digit. -/
def isOctal (c : Char) : Bool := '0' ≤ c && c ≤ '7'

/-- Reads hexadecimal digits up to a closing brace. A failure gives the place where reading ended. -/
def bracedHex (value : Nat) (some? : Bool) : List Char → Except (List Char) (Nat × List Char)
  | [] => .error []
  | '}' :: rest => if some? then .ok (value, rest) else .error rest
  | c :: rest =>
    match hexDigit? c with
    | none => .error rest
    | some d => if 0x10ffff < 16 * value + d then .error rest else bracedHex (16 * value + d) true rest

/-- Reads a code point in hexadecimal digits: two of them, or any number between braces. -/
def hexEscape : List Char → Except (List Char) (Nat × List Char)
  | [] => .error []
  | '{' :: rest => bracedHex 0 false rest
  | [_] => .error []
  | a :: b :: rest =>
    match hexDigit? a, hexDigit? b with
    | some x, some y => .ok (16 * x + y, rest)
    | _, _ => .error rest

/-- The letters that stand for a control character. -/
def controlLetters : List (Char × Nat) :=
  [('a', 7), ('f', 0xc), ('n', 0xa), ('r', 0xd), ('t', 9), ('v', 0xb)]

/-- Reads a backslash and what is escaped by it, as a code point. -/
def escape (whole : List Char) : Except PatternIssue (Nat × List Char) :=
  match whole.drop 1 with
  | [] => .error ⟨.lastBackslash, []⟩
  | c :: rest =>
    let wrong (rest : List Char) : Except PatternIssue (Nat × List Char) :=
      .error ⟨.escape, upTo rest whole⟩
    if isOctal c && (c == '0' || rest.head?.any isOctal) then
      let digits := c :: (rest.take 2).takeWhile isOctal
      .ok (digits.foldl (fun n d => 8 * n + (d.toNat - 0x30)) 0, rest.drop (digits.length - 1))
    else if c == 'x' then
      match hexEscape rest with
      | .ok found => .ok found
      | .error rest => wrong rest
    else match controlLetters.lookup c with
      | some n => .ok (n, rest)
      | none => if c.toNat < 0x80 && !c.isAlphanum then .ok (c.toNat, rest) else wrong rest

/-! ### Sets between brackets -/

/-- Reads one character of a set; `whole` is the text from the opening bracket on. -/
def setChar (whole : List Char) : List Char → Except PatternIssue (Nat × List Char)
  | [] => .error ⟨.openBracket, whole⟩
  | '\\' :: rest => escape ('\\' :: rest)
  | c :: rest => .ok (c.toNat, rest)

/-- Splits a text at the first colon that a closing bracket follows. -/
def splitName : List Char → Option (List Char × List Char)
  | ':' :: ']' :: rest => some ([], rest)
  | c :: rest => (splitName rest).map fun (name, rest) => (c :: name, rest)
  | [] => none

/-- Reads the name of a set between `[:` and `:]`, if there is one. -/
def namedSet? (anyCase : Bool) (t : List Char) : Except PatternIssue (Option (Ranges × List Char)) :=
  match t with
  | '[' :: ':' :: inner =>
    match splitName inner with
    | none => .ok none
    | some (name, rest) =>
      let (turned, name) := match name with
        | '^' :: name => (true, name)
        | name => (false, name)
      match namedSets.lookup (String.ofList name) with
      | some ranges => .ok (some (formed anyCase turned ranges, rest))
      | none => .error ⟨.range, upTo rest t⟩
  | _ => .ok none

/-- Reads one character or one range of a set. -/
def setRange (anyCase : Bool) (whole t : List Char) : Except PatternIssue (Ranges × List Char) := do
  let (lo, rest) ← setChar whole t
  match rest with
  | '-' :: c :: more =>
    if c == ']' then pure (formed anyCase false [(lo, lo)], rest)
    else
      let (hi, rest) ← setChar whole (c :: more)
      if hi < lo then throw ⟨.range, upTo rest t⟩
      else pure (formed anyCase false [(lo, hi)], rest)
  | _ => pure (formed anyCase false [(lo, lo)], rest)

/-- Reads one part of a set. -/
def setPart (anyCase : Bool) (whole t : List Char) : Except PatternIssue (Ranges × List Char) := do
  match ← namedSet? anyCase t with
  | some found => pure found
  | none =>
    match t with
    | '\\' :: c :: rest =>
      if c == 'p' || c == 'P' then propertySet anyCase (c == 'P') t
      else match letterSet? anyCase c with
        | some set => pure (set, rest)
        | none => setRange anyCase whole t
    | _ => setRange anyCase whole t

/-- Reads the parts of a set up to the closing bracket, which does not count as one in the first
place. -/
def setParts (anyCase : Bool) (whole : List Char) : (fuel : Nat) → (first : Bool) →
    (sofar : List Ranges) → List Char → Except PatternIssue (Ranges × List Char)
  | 0, _, _, _ => .error ⟨.openBracket, whole⟩
  | fuel + 1, first, sofar, t => do
    if t.head? == some ']' && !first then pure (Ranges.normalize sofar.flatten, t.drop 1)
    else
      let (set, rest) ← setPart anyCase whole t
      setParts anyCase whole fuel false (set :: sofar) rest

/-- Reads a set from its opening bracket on. -/
def bracketed (anyCase : Bool) (fuel : Nat) (whole : List Char) :
    Except PatternIssue (Ranges × List Char) := do
  let body := whole.drop 1
  let negated := body.head? == some '^'
  let body := if negated then body.drop 1 else body
  let (set, rest) ← setParts anyCase whole fuel true [] body
  pure (if negated then set.complement else set, rest)

/-! ### Repetitions -/

/-- Reads a number without leading zeros. One that is too large to matter is none. -/
def count? (t : List Char) : Option (Option Nat × List Char) :=
  let ds := t.takeWhile Char.isDigit
  if ds.isEmpty || (ds.head? == some '0' && 1 < ds.length) then none
  else
    let n := ds.foldl (fun n d => 10 * n + (d.toNat - 0x30)) 0
    some (if n ≤ 1000 then some n else none, t.drop ds.length)

/-- How often a pattern is repeated: the least number, and the largest if there is one. Numbers that
are too large are none at all. -/
abbrev Bounds := Option (Nat × Option Nat)

/-- Reads the numbers of a repetition between braces. -/
def bounds? (t : List Char) : Option (Bounds × List Char) := do
  let (least, rest) ← count? (t.drop 1)
  match rest with
  | '}' :: rest => some (least.map fun n => (n, some n), rest)
  | ',' :: '}' :: rest => some (least.map fun n => (n, none), rest)
  | ',' :: rest =>
    let (most, rest) ← count? rest
    match rest with
    | '}' :: rest =>
      some (least.bind fun n => most.bind fun m => if n ≤ m then some (n, some m) else none, rest)
    | _ => none
  | _ => none

/-! ### Groups -/

/-- How characters are read. -/
structure Mode where
  anyCase : Bool := false
  manyLines : Bool := false
  dotIsAll : Bool := false
  deriving DecidableEq, Repr

namespace Mode

/-- Switches what a letter stands for on or off. -/
def set? (m : Mode) (on : Bool) (letter : Char) : Option Mode :=
  if letter == 'i' then some { m with anyCase := on }
  else if letter == 'm' then some { m with manyLines := on }
  else if letter == 's' then some { m with dotIsAll := on }
  else if letter == 'U' then some m
  else none

/-- Reads the letters at the start of a group, up to a colon or a closing parenthesis. The result says
whether a group was opened. A failure gives the place where reading ended. -/
def read (m : Mode) : (on due : Bool) → List Char → Except (List Char) (Mode × Bool × List Char)
  | _, _, [] => .error []
  | on, due, c :: rest =>
    if c == ':' || c == ')' then if due then .error rest else .ok (m, c == ':', rest)
    else if c == '-' then if on then read m false true rest else .error rest
    else match m.set? on c with
      | some m => read m on false rest
      | none => .error rest

end Mode

/-! ### The stack -/

/-- What is on the stack of a reader: a form, the start of a group with the mode outside of it, or
the end of an alternative. -/
inductive Slot where
  | form (f : Form)
  | opening (outside : Mode) (numbered : Bool)
  | bar

/-- What is known in the middle of a pattern. The stack has its top first, and in each group all
alternatives but the current one lie below the mark for their end. `last` is the text from the
repetition on that was read last, if nothing was read behind it. -/
structure PatternReader where
  mode : Mode := {}
  stack : List Slot := []
  stock : Stock := {}
  /-- the ends of ranges in all sets, and the characters of literals -/
  marks : Nat := 0
  /-- whether the sizes of all forms on the stack are known to be within bounds -/
  sized : Bool := false
  last : Option (List Char) := none

namespace PatternReader

/-- The greatest height of a form. -/
def greatestHeight : Nat := 1000

/-- The greatest number of marks. -/
def greatestMarks : Nat := 33554432

/-- The form is not too large. -/
def fits (f : Form) : Bool := f.size ≤ Stock.greatestSize

/-- The form in a slot, if there is one, is not too large. -/
def Slot.fits : Slot → Bool
  | .form f => PatternReader.fits f
  | _ => true

/-- Refuses a form that was put on the stack, or the whole pattern, if it is out of bounds. -/
def check (r : PatternReader) (f : Form) : Except PatternIssueKind PatternReader :=
  let stock := r.stock.note f
  if greatestMarks < r.marks then .error .tooLarge
  else if stock.sizing && !(if r.sized then fits f else r.stack.all Slot.fits) then .error .tooLarge
  else if greatestHeight < f.height then .error .tooDeep
  else .ok { r with stock, sized := stock.sizing }

/-- Joins the two literals on top, if both are read in the same case. -/
def joinLiterals? : List Slot → Option (List Slot)
  | .form (.literal x i) :: .form (.literal y j) :: rest =>
    if i == j then some (.form (.literal (x ++ y) i) :: rest) else none
  | _ => none

/-- Joins the two literals on top, if that is possible, and gives the spare part back. -/
def joinLiterals (r : PatternReader) : PatternReader :=
  match joinLiterals? r.stack with
  | some stack => { r with stack, stock := r.stock.give }
  | none => r

/-- Puts a form on the stack. A set of one character becomes a literal, in the place of the last one
if that was joined. -/
def push (r : PatternReader) (f : Form) : Except PatternIssueKind PatternReader :=
  let place (r : PatternReader) (f : Form) := check { r with stack := .form f :: r.stack } f
  match f with
  | .set members =>
    let r := { r with marks := r.marks + 2 * members.length }
    match Form.literal? members, joinLiterals? r.stack with
    | some f, some stack => .ok { r with stack := .form f :: stack }
    | some f, none => place r f
    | none, _ => place r.joinLiterals f
  | .literal reversed _ => place { r.joinLiterals with marks := r.marks + reversed.length } f
  | f => place r.joinLiterals f

/-- Puts a mark on the stack. -/
def pushMark (r : PatternReader) (s : Slot) : Except PatternIssueKind PatternReader :=
  let r := joinLiterals { r with stock := r.stock.take }
  check { r with stack := s :: r.stack } .empty

/-- The forms on top of the stack down to the first mark, in order and in front of `fs`, and what
lies below. -/
def above (fs : List Form) : List Slot → List Form × List Slot
  | .form f :: rest => above (f :: fs) rest
  | below => (fs, below)

/-- Makes one form of the current alternative. -/
def closeSequence (r : PatternReader) : Except PatternIssueKind PatternReader :=
  let r := r.joinLiterals
  let (fs, below) := above [] r.stack
  let r := { r with stack := below }
  if fs.isEmpty then push { r with stock := r.stock.take } .empty
  else
    let (f, stock) := (Form.arrange fs).run r.stock
    push { r with stock } f

/-- Moves the last alternative below the mark for the end of the one in front of it, or joins both if
they are single characters. Fails if there is no such mark. -/
def settle? (r : PatternReader) : Option PatternReader :=
  match r.stack with
  | .form f :: .bar :: .form g :: rest =>
    if f.isSet && g.isSet then
      some { r with stack := .bar :: .form (g.union f) :: rest, stock := r.stock.give }
    else some { r with stack := .bar :: .form f :: .form g :: rest }
  | .form f :: .bar :: rest => some { r with stack := .bar :: .form f :: rest }
  | _ => none

/-- Makes one form of all alternatives of the current group. -/
def closeChoice (r : PatternReader) : Except PatternIssueKind PatternReader := do
  let r ← r.closeSequence
  let r := match r.settle? with
    | some r => { r with stack := r.stack.drop 1 }
    | none => r
  let (fs, below) := above [] r.stack
  let (f, stock) := (Form.chooseOf fs).run r.stock
  push { r with stack := below, stock } f

/-- Ends an alternative. -/
def nextAlternative (r : PatternReader) : Except PatternIssueKind PatternReader := do
  let r ← r.closeSequence
  match r.settle? with
  | some r => pure r
  | none => r.pushMark .bar

/-! ### Reading -/

/-- Issues with the whole pattern. -/
def onWhole {α : Type} (whole : List Char) : Except PatternIssueKind α → Except PatternIssue α
  | .ok a => .ok a
  | .error kind => .error ⟨kind, whole⟩

/-- Adds a form. -/
def add (r : PatternReader) (f : Form) : Except PatternIssueKind PatternReader :=
  push { r with stock := r.stock.take, last := none } f

/-- Adds a single character, given by its code point. In any case, the least of its family is
kept. -/
def addChar (r : PatternReader) (cp : Nat) : Except PatternIssueKind PatternReader :=
  let kept := if r.mode.anyCase then (caseFamily cp).foldl min cp else cp
  r.add (.literal [kept] r.mode.anyCase)

/-- Opens a group. -/
def openGroup (r : PatternReader) (inside : Mode) (numbered : Bool) :
    Except PatternIssueKind PatternReader := do
  let r ← r.pushMark (.opening r.mode numbered)
  pure { r with mode := inside, last := none }

/-- Closes the innermost group. -/
def closeGroup (r : PatternReader) : Except PatternIssueKind PatternReader := do
  let r ← r.closeChoice
  match r.stack with
  | .form f :: .opening outside numbered :: rest =>
    let r := { r with mode := outside, stack := rest, last := none }
    r.push (if numbered then .group f else f)
  | _ => throw .extraParen

/-- Repeats the form on top. `before` is the text from the repetition on, and `rest` what follows it;
a question mark may follow, which changes nothing for a search. -/
def repeatLast (r : PatternReader) (how : Repetition) (whole before rest : List Char) :
    Except PatternIssue (PatternReader × List Char) := do
  let rest := if rest.head? == some '?' then rest.drop 1 else rest
  match r.last, r.stack with
  | some last, _ => throw ⟨.nestedRepeat, upTo rest last⟩
  | none, .form f :: below =>
    let f := Form.repeated f how
    let r := { r with stack := .form f :: below, stock := r.stock.take, last := some before }
    let r ← onWhole whole (r.check f)
    if how.counted && (2 ≤ how.least || how.most.any (2 ≤ ·)) && !f.repeatsWithin 1000 then
      throw ⟨.repeatCount, upTo rest before⟩
    else pure (r, rest)
  | none, _ => throw ⟨.nothingToRepeat, upTo rest before⟩

/-- A name for a group: letters, digits and low lines. -/
def isName (name : List Char) : Bool := !name.isEmpty && name.all fun c => c.isAlphanum || c == '_'

/-- Reads the start of a group whose name begins behind `width` characters. -/
def namedGroup (r : PatternReader) (width : Nat) (whole t : List Char) :
    Except PatternIssue (PatternReader × List Char) := do
  if t.contains '>' then
    let start := t.takeWhile (· != '>')
    if isName (start.drop width) then
      pure (← onWhole whole (r.openGroup r.mode true), t.drop (start.length + 1))
    else throw ⟨.name, start ++ ['>']⟩
  else throw ⟨.name, t⟩

/-- Reads the start of a group that has a question mark behind its parenthesis. -/
def specialGroup (r : PatternReader) (whole t : List Char) :
    Except PatternIssue (PatternReader × List Char) := do
  match t.drop 2 with
  | 'P' :: '<' :: _ :: _ => r.namedGroup 4 whole t
  | '<' :: _ :: _ => r.namedGroup 3 whole t
  | rest =>
    match r.mode.read true false rest with
    | .ok (mode, true, rest) => pure (← onWhole whole (r.openGroup mode false), rest)
    | .ok (mode, false, rest) => pure ({ r with mode, last := none }, rest)
    | .error rest => throw ⟨.group, upTo rest t⟩

/-- Splits quoted characters from what follows the mark that ends them. -/
def quotation : List Char → List Char × List Char
  | [] => ([], [])
  | '\\' :: 'E' :: rest => ([], rest)
  | c :: rest =>
    let (quoted, rest) := quotation rest
    (c :: quoted, rest)

/-- The places that a letter behind a backslash stands for. -/
def edges : List (Char × Edge) :=
  [('A', .textStart), ('b', .wordEdge), ('B', .noWordEdge), ('z', .textEnd)]

/-- Reads a backslash and what belongs to it. -/
def backslash (r : PatternReader) (whole t : List Char) :
    Except PatternIssue (PatternReader × List Char) := do
  match t with
  | _ :: c :: rest =>
    match edges.lookup c with
    | some e => pure (← onWhole whole (r.add (.edge e)), rest)
    | none =>
      if c == 'C' then throw ⟨.escape, ['\\', 'C']⟩
      else if c == 'Q' then
        let (quoted, rest) := quotation rest
        let add (r : PatternReader) (c : Char) := r.addChar c.toNat
        pure (← onWhole whole (quoted.foldlM add { r with last := none }), rest)
      else if c == 'p' || c == 'P' then
        let (set, rest) ← propertySet r.mode.anyCase (c == 'P') t
        pure (← onWhole whole (r.add (.set set)), rest)
      else match letterSet? r.mode.anyCase c with
        | some set => pure (← onWhole whole (r.add (.set set)), rest)
        | none =>
          let (cp, rest) ← escape t
          pure (← onWhole whole (r.addChar cp), rest)
  | _ =>
    let (cp, rest) ← escape t
    pure (← onWhole whole (r.addChar cp), rest)

/-- All characters but the line feed. -/
def notLineFeed : Ranges := Ranges.complement [(0xa, 0xa)]

/-- Reads the next part of the pattern `whole`, of which `c :: rest` is left. The fuel is at least the
length of that. -/
def step (whole : List Char) (fuel : Nat) (r : PatternReader) (c : Char) (rest : List Char) :
    Except PatternIssue (PatternReader × List Char) := do
  let t := c :: rest
  let bounded (r : Except PatternIssueKind PatternReader) := do pure (← onWhole whole r, rest)
  match c with
  | '(' =>
    if rest.head? == some '?' then r.specialGroup whole t else bounded (r.openGroup r.mode true)
  | '|' => bounded ({ r with last := none }.nextAlternative)
  | ')' => bounded r.closeGroup
  | '^' => bounded (r.add (.edge (if r.mode.manyLines then .lineStart else .textStart)))
  | '$' => bounded (r.add (.edge (if r.mode.manyLines then .lineEnd else .textEnd)))
  | '.' =>
    bounded (r.add (.set (if r.mode.dotIsAll then [(0, Ranges.greatest)] else notLineFeed)))
  | '[' =>
    let (set, rest) ← bracketed r.mode.anyCase (fuel + 1) t
    pure (← onWhole whole (r.add (.set set)), rest)
  | '*' => r.repeatLast ⟨0, none, false⟩ whole t rest
  | '+' => r.repeatLast ⟨1, none, false⟩ whole t rest
  | '?' => r.repeatLast ⟨0, some 1, false⟩ whole t rest
  | '{' =>
    match bounds? t with
    | some (some (least, most), rest) => r.repeatLast ⟨least, most, true⟩ whole t rest
    | some (none, rest) => throw ⟨.repeatCount, upTo rest t⟩
    | none => bounded (r.addChar c.toNat)
  | '\\' => r.backslash whole t
  | c => bounded (r.addChar c.toNat)

/-- Reads the rest of a pattern. -/
def finish (whole : List Char) : (fuel : Nat) → PatternReader → List Char → Except PatternIssue Form
  | 0, _, _ => .error ⟨.openParen, whole⟩
  | _ + 1, r, [] => do
    match (← onWhole whole r.closeChoice).stack with
    | [.form f] => pure f
    | _ => throw ⟨.openParen, whole⟩
  | fuel + 1, r, c :: rest =>
    match r.step whole fuel c rest with
    | .error i => .error i
    | .ok (r, rest) => finish whole fuel r rest

end PatternReader

/-- Reads a pattern. -/
def parse (t : List Char) : Except PatternIssue Pattern :=
  (PatternReader.finish t (t.length + 1) {} t).map Form.pattern

end Pattern

end LessonLang
