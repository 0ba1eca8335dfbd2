import LessonLang.Yaml.Token

/-!
YAML text as a queue of tokens.

* `TokenQueue` holds what is known at a place between two tokens, together with the tokens that were
  read but not taken yet. `TokenQueue.fetch` reads the next one, `TokenQueue.peek` shows the first one
  in the queue, and `TokenQueue.take` removes it.
* A key without an indicator is only recognised by the colon behind it. Until then it is a
  `SimpleKey`, remembered by the number of its token, in front of which the missing tokens are put. If
  that token was taken already, they go to the end of the queue.
* Tokens are read as late as possible: `peek` reads until three are waiting and the first of them is no
  possible key any more. So a fault far behind a document does not count.
-/

namespace LessonLang

namespace Yaml

/-- A place where a key may have started. A required one must turn out to be a key. -/
structure SimpleKey where
  possible : Bool := false
  required : Bool := false
  number : Nat := 0
  index : Nat := 0
  line : Nat := 0
  column : Nat := 0

/-- The longest key that needs no indicator. -/
def keyLimit : Nat := 1024

/-- The key can still be one when the text has been read up to `c`: it is short and on one line. -/
def SimpleKey.isFresh (k : SimpleKey) (c : Cursor) : Bool :=
  c.line ≤ k.line && c.index ≤ k.index + keyLimit

/-- Looks at a key again when the text has been read up to `c`. A required key must not be lost. -/
def SimpleKey.review (k : SimpleKey) (c : Cursor) : Option SimpleKey :=
  if !k.possible || k.isFresh c then some k
  else if k.required then none
  else some { k with possible := false }

/-- What is known between two tokens. -/
structure TokenQueue where
  cursor : Cursor
  /-- a bound for the number of steps: the size of the text -/
  size : Nat
  /-- the tokens that were read and not taken -/
  waiting : List Located := []
  /-- how many tokens were taken -/
  taken : Nat := 0
  /-- enough tokens are waiting to take the first one -/
  ready : Bool := false
  /-- the column of the innermost block collection, or minus one -/
  indent : Int := -1
  /-- the columns of the block collections around it -/
  outer : List Int := []
  /-- the possible key of the innermost flow collection, or of the block collections -/
  current : SimpleKey := {}
  /-- the possible keys of the collections around, the innermost first -/
  enclosing : List SimpleKey := []
  /-- the number of flow collections around -/
  flowLevel : Nat := 0
  /-- the numbers of tokens that may be keys, each with the nesting depth at which it was read -/
  pending : List (Nat × Nat) := []
  /-- a key may start here -/
  keyAllowed : Bool := true

namespace TokenQueue

/-- Inside a flow collection. -/
def inFlow (q : TokenQueue) : Bool := !q.enclosing.isEmpty

/-- The number that the next token gets. -/
def next (q : TokenQueue) : Nat := q.taken + q.waiting.length

/-- Adds a token that starts on the given line. -/
def add (q : TokenQueue) (t : Token) (line : Nat) : TokenQueue :=
  { q with waiting := q.waiting ++ [⟨t, line⟩] }

/-- Puts a token in front of the one with the given number, or at the end if that was taken. -/
def insert (q : TokenQueue) (number : Nat) (t : Token) (line : Nat) : TokenQueue :=
  if number < q.taken then q.add t line
  else
    let place := number - q.taken
    { q with waiting := q.waiting.take place ++ ⟨t, line⟩ :: q.waiting.drop place }

/-- Adds a token for the next character. -/
def indicator (q : TokenQueue) (t : Token) : TokenQueue :=
  { q.add t q.cursor.line with cursor := q.cursor.skip }

/-- Adds a token that was read from the cursor of the queue up to `c`. -/
def scanned (q : TokenQueue) (t : Token) (c : Cursor) : TokenQueue :=
  { q.add t q.cursor.line with cursor := c }

/-! ### Keys and indentation -/

/-- Forgets that a token may be a key, and all tokens that were taken. -/
def forget (q : TokenQueue) (number : Nat) : TokenQueue :=
  { q with pending := q.pending.filter fun e => e.1 != number && q.taken ≤ e.1 }

/-- Gives up the possible key, which must not be a required one. -/
def dropKey (q : TokenQueue) : Option TokenQueue :=
  if !q.current.possible then some q
  else if q.current.required then none
  else some { q.forget q.current.number with current := { q.current with possible := false } }

/-- Notes that a key may start here. -/
def saveKey (q : TokenQueue) : Option TokenQueue :=
  if q.keyAllowed then
    let c := q.cursor
    let required := !q.inFlow && q.indent == c.column
    q.dropKey.map fun q =>
      { q.forget q.next with
        current := ⟨true, required, q.next, c.index, c.line, c.column⟩
        pending := (q.next, q.flowLevel) :: (q.forget q.next).pending }
  else some q

/-- The possible key at a nesting depth. -/
def keyAt? (q : TokenQueue) (level : Nat) : Option SimpleKey :=
  (q.current :: q.enclosing)[q.flowLevel - level]?

/-- Replaces the possible key at a nesting depth. -/
def setKey (q : TokenQueue) (level : Nat) (k : SimpleKey) : TokenQueue :=
  if level == q.flowLevel then { q with current := k }
  else { q with enclosing := q.enclosing.set (q.flowLevel - level - 1) k }

/-- The number of collections that may be nested. -/
def depthLimit : Nat := 10000

/-- Closes the block collections that are indented deeper than `column`. -/
def unrollTo (column : Int) (line : Nat) : List Int → TokenQueue → TokenQueue
  | [], q => q
  | o :: os, q =>
    if column < q.indent then
      unrollTo column line os { q.add .blockEnd line with indent := o, outer := os }
    else q

/-- Closes the block collections that are indented deeper than `column`. Inside a flow collection
indentation does not count. -/
def unroll (q : TokenQueue) (column : Int) (line : Nat) : TokenQueue :=
  if q.inFlow then q else unrollTo column line q.outer q

/-- Opens a block collection at `column`, unless one is open there. Its token goes in front of the one
with the given number. -/
def roll (q : TokenQueue) (column number : Nat) (t : Token) (line : Nat) : Option TokenQueue :=
  if !q.inFlow && q.indent < column then
    if depthLimit ≤ q.outer.length then none
    else some { q.insert number t line with indent := column, outer := q.indent :: q.outer }
  else some q

/-- Opens a block collection at the place of the cursor. -/
def rollHere (q : TokenQueue) (t : Token) : Option TokenQueue :=
  q.roll q.cursor.column q.next t q.cursor.line

/-! ### Between tokens -/

/-- How far ahead a comment is looked for. -/
def commentReach : Nat := 512

/-- Goes over separators and breaks up to the character with a given index. -/
def passTo (index : Nat) : (fuel : Nat) → Cursor → Cursor
  | 0, c => c
  | fuel + 1, c =>
    if index ≤ c.index then c
    else if c.peek.any isBreak then passTo index fuel c.skipBreak
    else passTo index fuel c.skip

/-- Looks for a comment behind separators and, if `p` has them, breaks. The first `start` characters
are known to be such. The result says whether there was one; then the cursor stands behind it. -/
def overComment (p : Char → Bool) (start : Nat) (c : Cursor) : Option (Bool × Cursor) := do
  let ahead := (((c.rest.drop start).take (commentReach - start)).takeWhile p).length + start
  let c ← c.need (min (ahead + 1) commentReach)
  if ahead < commentReach && c.peekAt ahead == some '#' then
    some (true, ← (passTo (c.index + ahead) ahead c).skipLine)
  else some (false, c)

/-- Goes over the comments on the lines behind a comment. -/
def moreComments : (fuel : Nat) → Cursor → Option Cursor
  | 0, c => some c
  | fuel + 1, c =>
    if c.peek.any isShortBreak then do
      let (found, c) ← overComment (fun x => isGap x || isShortBreak x) 1 c
      if found then moreComments fuel c else some c
    else c.need 2

/-- Goes over a comment on the line of a token. -/
def lineComment (c : Cursor) : Option Cursor :=
  if c.broken then some c else (overComment isGap 0 c).map (·.2)

/-- Goes to the next token. A tab separates tokens only where no key may start. The mark for the
encoding counts for nothing at the start of a line if the last block was taken in there. -/
def toNextToken : (fuel : Nat) → TokenQueue → Option TokenQueue
  | 0, q => some q
  | fuel + 1, q => do
    let c ← q.cursor.need 1
    let c := if c.column == 0 && c.origin == some encodingMark then c.skip else c
    let tabs := q.inFlow || !q.keyAllowed
    let c ← c.skipWhile fun x => x == ' ' || (tabs && x == '\t')
    let c ← if c.sees '#' then (← c.skipLine) |> moreComments q.size else some c
    if c.peek.any isBreak then
      let c ← c.need 2
      toNextToken fuel { q with cursor := c.skipBreak, keyAllowed := q.keyAllowed || !q.inFlow }
    else some { q with cursor := c }

/-! ### Single tokens -/

/-- The end of the text. -/
def fetchEnd (q : TokenQueue) : Option TokenQueue :=
  let line := if q.cursor.column == 0 then q.cursor.line else q.cursor.line + 1
  let q := { q with cursor := { q.cursor with line, column := 0 } }
  (q.unroll (-1) line).dropKey.map fun q => { q.add .streamEnd line with keyAllowed := false }

/-- A document marker. -/
def fetchMarker (q : TokenQueue) (t : Token) : Option TokenQueue :=
  (q.unroll (-1) q.cursor.line).dropKey.map fun q =>
    { q.scanned t q.cursor.skip.skip.skip with keyAllowed := false }

/-- A directive, with the rest of its line. -/
def fetchDirective (q : TokenQueue) : Option TokenQueue := do
  let q ← (q.unroll (-1) q.cursor.line).dropKey
  let (t, c) ← scanDirective q.cursor
  some { q.scanned t c with keyAllowed := false }

/-- The start of a flow collection. -/
def fetchFlowStart (q : TokenQueue) (t : Token) : Option TokenQueue := do
  let q ← q.saveKey
  if depthLimit ≤ q.flowLevel then none
  else some { q.indicator t with
    enclosing := q.current :: q.enclosing, flowLevel := q.flowLevel + 1
    current := { number := q.next }, keyAllowed := true }

/-- The end of a flow collection. The token that began it, or what was read last as a possible key
inside it, is no possible key any more. -/
def fetchFlowEnd (q : TokenQueue) (t : Token) : Option TokenQueue := do
  let q ← q.dropKey
  let q := match q.enclosing with
    | k :: ks =>
      { q.forget q.current.number with enclosing := ks, current := k, flowLevel := q.flowLevel - 1 }
    | [] => q
  some { q.indicator t with keyAllowed := false }

/-- The comma between the items of a flow collection. -/
def fetchFlowEntry (q : TokenQueue) : Option TokenQueue :=
  q.dropKey.map fun q => { q.indicator .flowEntry with keyAllowed := true }

/-- The dash in front of an item of a block sequence. -/
def fetchBlockEntry (q : TokenQueue) : Option TokenQueue := do
  if !q.inFlow && !q.keyAllowed then none
  else
    let q ← (← q.rollHere .blockSequenceStart).dropKey
    some { q.indicator .blockEntry with keyAllowed := true }

/-- The question mark in front of a key. -/
def fetchKey (q : TokenQueue) : Option TokenQueue := do
  if !q.inFlow && !q.keyAllowed then none
  else
    let q ← (← q.rollHere .blockMappingStart).dropKey
    some { q.indicator .key with keyAllowed := !q.inFlow }

/-- The colon in front of a value. It makes a key of what may have been one, or follows a key with an
indicator. -/
def fetchValue (q : TokenQueue) : Option TokenQueue := do
  let k ← q.current.review q.cursor
  let q := { q with current := k }
  if k.possible then
    let q ← (q.insert k.number .key k.line).roll k.column k.number .blockMappingStart k.line
    some { (q.forget k.number).indicator .value with
      current := { k with possible := false }, keyAllowed := false }
  else if q.inFlow then some { q.indicator .value with keyAllowed := false }
  else if !q.keyAllowed then none
  else
    let q ← q.rollHere .blockMappingStart
    some { q.indicator .value with keyAllowed := true }

/-- An alias or an anchor: a name behind its indicator. -/
def fetchName (q : TokenQueue) (make : Text → Token) : Option TokenQueue := do
  let q ← q.saveKey
  let (name, c) ← scanName q.cursor
  some { q.scanned (make name) c with keyAllowed := false }

/-- A tag. -/
def fetchTag (q : TokenQueue) : Option TokenQueue := do
  let q ← q.saveKey
  let (t, c) ← scanTag q.cursor
  some { q.scanned t c with keyAllowed := false }

/-- A plain scalar. If it ends at a line break, a key may follow. -/
def fetchPlain (q : TokenQueue) : Option TokenQueue := do
  let q ← q.saveKey
  let r ← scanPlain q.inFlow (q.indent + 1).toNat q.cursor
  some { q.scanned (.scalar true (Text.ofChars r.text)) r.cursor with keyAllowed := r.broken }

/-- A quoted scalar. -/
def fetchQuoted (q : TokenQueue) (single : Bool) : Option TokenQueue := do
  let q ← q.saveKey
  let (text, c) ← scanQuoted single q.cursor
  some { q.scanned (.scalar false (Text.ofChars text)) c with keyAllowed := false }

/-- A block scalar. -/
def fetchBlock (q : TokenQueue) (literal : Bool) : Option TokenQueue := do
  let q ← q.dropKey
  let (text, c) ← scanBlock literal q.indent q.cursor.skip
  some { q.scanned (.scalar false (Text.ofChars text)) c with keyAllowed := true }

/-! ### All tokens -/

/-- A character that may start a plain scalar. -/
def startsPlain (inFlow : Bool) (c : Char) (next : Option Char) : Bool :=
  !("-?:,[]\x7b\x7d#&*!|>'\"%@`".toList.contains c || isGap c || isBreak c)
    || (c == '-' && !next.any isGap)
    || (!inFlow && (c == '?' || c == ':') && !endsWord next)

/-- Reads the token that starts at the next character `x`. -/
def dispatch (q : TokenQueue) (x : Char) : Option TokenQueue :=
  let next := q.cursor.peekAt 1
  if x == '[' then q.fetchFlowStart .flowSequenceStart
  else if x == '{' then q.fetchFlowStart .flowMappingStart
  else if x == ']' then q.fetchFlowEnd .flowSequenceEnd
  else if x == '}' then q.fetchFlowEnd .flowMappingEnd
  else if x == ',' then q.fetchFlowEntry
  else if x == '-' && endsWord next then q.fetchBlockEntry
  else if x == '?' && (q.inFlow || endsWord next) then q.fetchKey
  else if x == ':' && (q.inFlow || endsWord next) then q.fetchValue
  else if x == '*' then q.fetchName .aliasName
  else if x == '&' then q.fetchName .anchor
  else if x == '!' then q.fetchTag
  else if x == '|' && !q.inFlow then q.fetchBlock true
  else if x == '>' && !q.inFlow then q.fetchBlock false
  else if x == '\'' then q.fetchQuoted true
  else if x == '"' then q.fetchQuoted false
  else if startsPlain q.inFlow x next then q.fetchPlain
  else none

/-- The token read last may have a comment behind it on its line. -/
def takesComment (q : TokenQueue) : Bool := q.waiting.getLast?.map Located.token != some .blockEntry

/-- Reads the next token. -/
def fetch (q : TokenQueue) : Option TokenQueue := do
  let c ← q.cursor.need 1
  let q ← toNextToken (q.size + 1) { q with cursor := c }
  let q := q.unroll q.cursor.column c.line
  let c ← q.cursor.need 4
  let q := { q with cursor := c }
  match c.peek with
  | none => q.fetchEnd
  | some x =>
    if x == '%' && c.column == 0 then q.fetchDirective
    else if c.seesMarker '-' then q.fetchMarker .documentStart
    else if c.seesMarker '.' then q.fetchMarker .documentEnd
    else
      let q ← q.dispatch x
      if q.takesComment then
        let c ← lineComment q.cursor
        some { q with cursor := c }
      else some q

/-- Reads tokens until the first one can be taken. -/
def fill : (fuel : Nat) → TokenQueue → Option TokenQueue
  | 0, q => some q
  | fuel + 1, q =>
    if q.waiting.length < 3 then q.fetch.bind (fill fuel)
    else match q.pending.lookup q.taken with
      | none => some q
      | some level =>
        match q.keyAt? level with
        | none => some q
        | some k => do
          let k ← k.review q.cursor
          let q := q.setKey level k
          if k.possible then q.fetch.bind (fill fuel) else some q

/-- The queue at the start of a text. -/
def ofText (t : Text) : Option TokenQueue :=
  let s := Source.ofText t
  ((Cursor.start s).need 1).map fun cursor =>
    ({ cursor, size := s.chars.length + 1 } : TokenQueue).add .streamStart 0

/-- The first token, which stays in the queue. -/
def peek (q : TokenQueue) : Option (Located × TokenQueue) := do
  let q ← if q.ready then some q else q.fill (q.size + 8)
  let t ← q.waiting.head?
  some (t, { q with ready := true })

/-- Takes the first token. -/
def take (q : TokenQueue) : TokenQueue :=
  { q with waiting := q.waiting.drop 1, taken := q.taken + 1, ready := false }

end TokenQueue

end Yaml

end LessonLang
