import LessonLang.Yaml.Cursor

/-!
The written forms of scalars.

* `scanPlain` reads a scalar without quotation marks, which may go on over several lines.
* `scanQuoted` reads one between single or double quotation marks; only the latter have escapes.
* `scanBlock` reads a literal or folded block, with its marks for chomping and indentation.

Each gives the characters of the scalar and the place behind it, or nothing if the text is malformed.
Their loops run over what is left of the text, which they get as a list beside the cursor; characters
that were read stand in a list with the last one first.
-/

namespace LessonLang

namespace Yaml

/-! ### Gaps between words -/

/-- What stands between two words of a scalar: separators inside a line, or breaks and the separators
around them, which then do not count. The last character comes first. Behind a backslash at the end
of a line all breaks count as they are. -/
structure Gap where
  separators : List Char := []
  breaks : List Char := []
  broken : Bool := false
  escaped : Bool := false

namespace Gap

/-- Adds a separator. -/
def addSeparator (g : Gap) (x : Char) : Gap :=
  if g.broken then g else { g with separators := x :: g.separators }

/-- Adds a break. -/
def addBreak (g : Gap) (x : Char) : Gap := { g with breaks := breakChar x :: g.breaks, broken := true }

/-- The start of a gap behind a backslash at the end of a line. -/
def joined : Gap := { broken := true, escaped := true }

/-- What the gap stands for, with the last character first. -/
def folded (g : Gap) : List Char :=
  if g.escaped then g.breaks
  else if g.broken then (foldBreaks g.breaks.reverse).reverse
  else g.separators

end Gap

/-! ### Plain scalars -/

/-- A character that ends a plain scalar inside a flow collection. -/
def endsFlowWord (c : Char) : Bool :=
  c == ',' || c == '?' || c == '[' || c == ']' || c == '{' || c == '}'

/-- The character `x`, with `next` behind it, ends a plain scalar. -/
def endsPlain (flow : Bool) (x : Char) (next : Option Char) : Bool :=
  (x == ':' && endsWord next) || (flow && endsFlowWord x)

/-- What reading a plain scalar comes to: its characters, whether a line break follows it, and the
place behind it. -/
structure PlainResult where
  text : List Char
  broken : Bool
  cursor : Cursor

/-- Where the reading of a plain scalar is: inside a word, at the start of one, or in a gap. -/
inductive PlainPlace where
  | word | start | gap
  deriving DecidableEq, Repr

/-- A word may start at this place of a plain scalar. -/
def startsWord (flow : Bool) (indent : Nat) (place : PlainPlace) (c : Cursor) : Bool :=
  place == .start || flow || indent ≤ c.column

/-- Reads the rest of a plain scalar. `found` are the characters so far, and `gap` is what stands
between them and the next word. -/
def plainFrom (flow : Bool) (indent : Nat) :
    List Char → PlainPlace → (found : List Char) → Gap → Cursor → Option PlainResult
  | [], place, found, gap, c =>
    let stop (c : Cursor) : Option PlainResult := some ⟨found.reverse, gap.broken, c⟩
    if place == .word || !startsWord flow indent place c then stop c else (c.need 4).bind stop
  | '\r' :: '\n' :: rest, _, found, gap, c => do
    let c ← (← c.need 2).skipBreak.need 1
    plainFrom flow indent rest .gap found (gap.addBreak '\n') c
  | x :: rest, place, found, gap, c =>
    let stop (c : Cursor) : Option PlainResult := some ⟨found.reverse, gap.broken, c⟩
    let readWord (c : Cursor) : Option PlainResult :=
      if endsPlain flow x rest.head? then stop c
      else (c.skip.need 2).bind (plainFrom flow indent rest .word (x :: gap.folded ++ found) {})
    if isBreak x then do
      let c ← (← c.need 2).skipBreak.need 1
      plainFrom flow indent rest .gap found (gap.addBreak x) c
    else if isGap x then
      if gap.broken && c.column < indent && x == '\t' then none
      else (c.skip.need 1).bind (plainFrom flow indent rest .gap found (gap.addSeparator x))
    else if place == .word then readWord c
    else if !startsWord flow indent place c then stop c
    else do
      let c ← c.need 4
      if c.seesAnyMarker || x == '#' then stop c else readWord c

/-- Reads a plain scalar. Its further lines are indented by `indent` columns, except inside a flow
collection. -/
def scanPlain (flow : Bool) (indent : Nat) (c : Cursor) : Option PlainResult :=
  plainFrom flow indent c.rest .start [] {} c

/-! ### Quoted scalars -/

/-- The value of a hexadecimal digit. -/
def hexDigit? (c : Char) : Option Nat :=
  if c.isDigit then some (c.toNat - 0x30)
  else if 'a' ≤ c && c ≤ 'f' then some (c.toNat - 0x57)
  else if 'A' ≤ c && c ≤ 'F' then some (c.toNat - 0x37)
  else none

/-- The characters that one letter stands for behind a backslash. -/
def escapes : List (Char × Char) :=
  [('0', '\x00'), ('a', '\x07'), ('b', '\x08'), ('t', '\t'), ('\t', '\t'), ('n', '\n'),
   ('v', '\x0b'), ('f', '\x0c'), ('r', '\r'), ('e', '\x1b'), (' ', ' '), ('"', '"'),
   ('\'', '\''), ('\\', '\\'), ('N', '\x85'), ('_', '\xa0'), ('L', '\u2028'), ('P', '\u2029')]

/-- The number of hexadecimal digits behind a letter for code points. -/
def codePointWidth? (c : Char) : Option Nat := [('x', 2), ('u', 4), ('U', 8)].lookup c

/-- Where the reading of a quoted scalar is: inside a word, in a gap, behind a backslash at the end of
a line, or in the digits of a code point, of which some are left. -/
inductive QuotedPlace where
  | word | gap | joined
  | digits (left value : Nat)
  deriving DecidableEq, Repr

/-- Reads the rest of a quoted scalar, behind the opening mark. `found` are the characters so far, and
`gap` is what stands behind them. -/
def quotedFrom (single : Bool) : List Char → QuotedPlace → (found : List Char) → Gap → Cursor →
    Option (List Char × Cursor)
  | [], _, _, _, _ => none
  | x :: rest, .digits left value, found, gap, c =>
    match hexDigit? x with
    | none => none
    | some d =>
      let value := 16 * value + d
      if 1 < left then quotedFrom single rest (.digits (left - 1) value) found gap c.skip
      else if value.isValidChar then
        (c.skip.need 2).bind (quotedFrom single rest .word (Char.ofNat value :: found) gap)
      else none
  | '\r' :: '\n' :: rest, _, found, gap, c => do
    let c ← (← c.need 2).skipBreak.need 1
    quotedFrom single rest .gap found (gap.addBreak '\n') c
  | x :: rest, place, found, gap, c =>
    let close := if single then '\'' else '"'
    if isBreak x then do
      let c ← (← c.need 2).skipBreak.need 1
      quotedFrom single rest .gap found (gap.addBreak x) c
    else if isGap x then
      (c.skip.need 1).bind (quotedFrom single rest .gap found (gap.addSeparator x))
    else if place == .joined && x == close then some (found.reverse, c.skip)
    else do
      let found := gap.folded ++ found
      let c ← if place == .word then some c else c.need 4
      if place != .word && c.seesAnyMarker then none
      else if x == close then
        match rest with
        | '\'' :: rest =>
          if single then
            (c.skip.skip.need 2).bind (quotedFrom single rest .word ('\'' :: found) {})
          else some (found.reverse, c.skip)
        | _ => some (found.reverse, c.skip)
      else if single || x != '\\' then
        (c.skip.need 2).bind (quotedFrom single rest .word (x :: found) {})
      else match rest with
        | [] => none
        | '\r' :: '\n' :: rest =>
          let c ← (← c.need 3).skip.skipBreak.need 1
          quotedFrom single rest .joined found .joined c
        | y :: rest =>
          if isBreak y then
            let c ← (← c.need 3).skip.skipBreak.need 1
            quotedFrom single rest .joined found .joined c
          else match escapes.lookup y, codePointWidth? y with
            | some z, _ => (c.skip.skip.need 2).bind (quotedFrom single rest .word (z :: found) {})
            | none, some n =>
              (c.skip.skip.need n).bind (quotedFrom single rest (.digits n 0) found {})
            | none, none => none

/-- Reads a quoted scalar, from its opening mark. -/
def scanQuoted (single : Bool) (c : Cursor) : Option (List Char × Cursor) := do
  let c ← c.skip.need 4
  quotedFrom single c.rest .word [] {} c

/-! ### Blocks -/

/-- What happens to the breaks at the end of a block. -/
inductive Chomping where
  | strip | clip | keep
  deriving DecidableEq, Repr

/-- Reads a mark for chomping. -/
def chomping? (c : Cursor) : Option (Chomping × Cursor) :=
  if c.sees '+' then some (.keep, c.skip)
  else if c.sees '-' then some (.strip, c.skip)
  else none

/-- Reads a mark for the indentation: a digit other than zero, or nothing. -/
def indentation? (c : Cursor) : Option (Nat × Cursor) :=
  match c.peek with
  | some x =>
    if x.isDigit then if x == '0' then none else some (x.toNat - 0x30, c.skip) else some (0, c)
  | none => some (0, c)

/-- Reads the marks of a block in either order. -/
def blockMarks? (c : Cursor) : Option (Chomping × Nat × Cursor) := do
  let c ← c.need 1
  match chomping? c with
  | some (k, c) =>
    let (n, c) ← indentation? (← c.need 1)
    some (k, n, c)
  | none =>
    let (n, c) ← indentation? c
    if n == 0 then some (.clip, n, c)
    else
      let c ← c.need 1
      match chomping? c with
      | some (k, c) => some (k, n, c)
      | none => some (.clip, n, c)

/-- What was read of a block so far: its characters, the break behind the last line, the breaks of
empty lines after it, and whether the last line started with a separator. Characters and breaks stand
with the last one first. `indent` is zero while the indentation of the block is not known, and
`deepest` is the deepest column seen by then. -/
structure BlockState where
  indent : Nat
  deepest : Nat := 0
  found : List Char := []
  last : List Char := []
  empty : List Char := []
  indented : Bool := false

namespace BlockState

/-- The indentation does not reach up to column `column`. -/
def isShallow (b : BlockState) (column : Nat) : Bool := b.indent == 0 || column < b.indent

/-- Adds an empty line that reached column `column`. -/
def addEmpty (b : BlockState) (column : Nat) (x : Char) : BlockState :=
  { b with empty := breakChar x :: b.empty, deepest := max b.deepest column }

/-- Settles the indentation at the first line with content; `outer` is that of the collection around
the block, or minus one. -/
def settle (b : BlockState) (outer : Int) (column : Nat) : BlockState :=
  if b.indent == 0 then
    { b with indent := max (max b.deepest column) (max (outer + 1).toNat 1) }
  else b

/-- Starts a line with the character `x`. In a folded block, the break in front of it is a space or
nothing, unless one of the two lines is indented further. -/
def startLine (b : BlockState) (literal : Bool) (x : Char) : BlockState :=
  let join :=
    if !literal && !b.indented && !isGap x && b.last == ['\n'] then
      if b.empty.isEmpty then [' '] else []
    else b.last
  { b with found := b.empty ++ join ++ b.found, last := [], empty := [], indented := isGap x }

/-- The characters of the block. -/
def text (b : BlockState) (k : Chomping) : List Char :=
  let tail := match k with
    | .strip => []
    | .clip => b.last
    | .keep => b.empty ++ b.last
  (tail ++ b.found).reverse

end BlockState

/-- Reads the rest of a block. `inLine` says that the place is inside a line with content, and not in
the indentation of one. -/
def blockFrom (literal : Bool) (outer : Int) :
    List Char → (inLine : Bool) → BlockState → Cursor → Option (BlockState × Cursor)
  | [], inLine, b, c => do
    let c ← if inLine then c.need 2 else some c
    some (b, ← c.need 1)
  | '\r' :: '\n' :: rest, inLine, b, c => do
    let b := if inLine then { b with last := ['\n'] } else b.addEmpty c.column '\n'
    let c ← (← c.need 2).skipBreak.need 1
    blockFrom literal outer rest false b c
  | x :: rest, inLine, b, c =>
    if isBreak x then do
      let b := if inLine then { b with last := [breakChar x] } else b.addEmpty c.column x
      let c ← (← c.need 2).skipBreak.need 1
      blockFrom literal outer rest false b c
    else if inLine then
      (c.skip.need 1).bind (blockFrom literal outer rest true { b with found := x :: b.found })
    else if b.isShallow c.column && x == ' ' then
      (c.skip.need 1).bind (blockFrom literal outer rest false b)
    else if b.isShallow c.column && x == '\t' then none
    else
      let b := b.settle outer c.column
      if c.column == b.indent then
        let b := b.startLine literal x
        (c.skip.need 1).bind (blockFrom literal outer rest true { b with found := x :: b.found })
      else some (b, c)

/-- Reads a block behind its indicator. `outer` is the indentation of the collection around it, or
minus one. -/
def scanBlock (literal : Bool) (outer : Int) (c : Cursor) : Option (List Char × Cursor) := do
  let (chomping, increment, c) ← blockMarks? c
  let c ← c.endLine
  let indent := if increment == 0 then 0 else outer.toNat + increment
  let c ← c.need 1
  let (b, c) ← blockFrom literal outer c.rest false { indent } c
  some (b.text chomping, c)

end Yaml

end LessonLang
