import LessonLang.Yaml.Scalar

/-!
The tokens of YAML text.

* `Token` is an indicator, a marker, a directive or a scalar. The start and the end of a block
  collection are tokens too, although nothing is written for them: they follow from indentation.
* `scanName`, `scanTag` and `scanDirective` read the tokens that consist of names: anchors and aliases,
  tags, and directives.

A tag is a sequence of bytes: with percent signs it may be written byte by byte.
-/

namespace LessonLang

namespace Yaml

/-- A token. -/
inductive Token where
  | streamStart
  | streamEnd
  | version (major minor : Nat)
  | tagDirective (handle stem : Text)
  | documentStart
  | documentEnd
  | blockSequenceStart
  | blockMappingStart
  | blockEnd
  | flowSequenceStart
  | flowSequenceEnd
  | flowMappingStart
  | flowMappingEnd
  | blockEntry
  | flowEntry
  | key
  | value
  | aliasName (name : Text)
  | anchor (name : Text)
  | tag (handle suffix : Text)
  | scalar (plain : Bool) (text : Text)
  deriving DecidableEq, Repr

/-- A token and the line it starts on. -/
structure Located where
  token : Token
  line : Nat
  deriving DecidableEq, Repr

/-! ### Names -/

/-- What may follow the name of an anchor. -/
def endsName (x : Option Char) : Bool :=
  endsWord x || x.any fun x => "?:,]\x7d%@`".toList.contains x

/-- Reads the name of an anchor or of an alias behind its indicator. -/
def scanName (c : Cursor) : Option (Text × Cursor) := do
  let (name, c) ← c.skip.takeWhile isNameChar
  if name.isEmpty || !endsName c.peek then none else some (Text.ofChars name, c)

/-! ### Tags -/

/-- A character of a tag. -/
def isTagChar (c : Char) : Bool := isNameChar c || ";/?:@&=+$,.!~*'()[]%".toList.contains c

/-- The byte that two hexadecimal digits behind a percent sign spell. -/
def percentByte? : List Char → Option UInt8
  | '%' :: a :: b :: _ =>
    match hexDigit? a, hexDigit? b with
    | some x, some y => some (16 * x + y).toUInt8
    | _, _ => none
  | _ => none

/-- Reads the bytes of a character that are still due. -/
def percentTail : (due : Nat) → Cursor → Option (Text × Cursor)
  | 0, c => some ([], c)
  | due + 1, c => do
    let c ← c.need 3
    let b ← percentByte? c.rest
    if b &&& 0xc0 != 0x80 then none
    else
      let (bs, c) ← percentTail due c.skip.skip.skip
      some (b :: bs, c)

/-- Reads the bytes of one character behind percent signs. The first byte tells how many there are;
beyond that they need not make sense. -/
def percentBytes (c : Cursor) : Option (Text × Cursor) := do
  let c ← c.need 3
  let b ← percentByte? c.rest
  if leadWidth b == 0 then none
  else
    let (bs, c) ← percentTail (leadWidth b - 1) c.skip.skip.skip
    some (b :: bs, c)

/-- Reads the characters of a tag as bytes. -/
def tagFrom : (fuel : Nat) → Cursor → Option (Text × Cursor)
  | 0, c => some ([], c)
  | fuel + 1, c =>
    match c.peek with
    | none => some ([], c)
    | some x =>
      if isTagChar x then do
        let (bs, c) ← if x == '%' then percentBytes c else some (String.utf8EncodeChar x, c.skip)
        let (more, c) ← tagFrom fuel (← c.need 1)
        some (bs ++ more, c)
      else some ([], c)

/-- Reads the characters of a tag. -/
def tagText (c : Cursor) : Option (Text × Cursor) := do
  let c ← c.need 1
  tagFrom ((c.rest.takeWhile isTagChar).length + 1) c

/-- Reads the characters of a tag, of which there is at least one. -/
def properTagText (c : Cursor) : Option (Text × Cursor) := do
  let (t, c) ← tagText c
  if t.isEmpty then none else some (t, c)

/-- Reads the handle of a tag: an exclamation mark, or a name between two. A name may also turn out to
have no second mark. -/
def tagHandle (c : Cursor) : Option (List Char × Cursor) := do
  let c ← c.need 1
  if !c.sees '!' then none
  else
    let (name, c) ← c.skip.takeWhile isNameChar
    if c.sees '!' then some ('!' :: name ++ ['!'], c.skip) else some ('!' :: name, c)

/-- A handle with a mark at either end. -/
def isHandle (h : List Char) : Bool := 1 < h.length && h.getLast? == some '!'

/-- Reads a tag: its handle, empty for one that is written out, and what follows the handle. -/
def tagParts (c : Cursor) : Option (Text × Text × Cursor) := do
  let c ← c.need 2
  if c.peekAt 1 == some '<' then
    let (text, c) ← properTagText c.skip.skip
    if c.sees '>' then some ([], text, c.skip) else none
  else
    let (handle, c) ← tagHandle c
    if isHandle handle then
      let (text, c) ← properTagText c
      some (Text.ofChars handle, text, c)
    else
      let (text, c) ← tagText c
      let suffix := Text.ofChars (handle.drop 1) ++ text
      if suffix.isEmpty then some ([], utf8 "!", c) else some (utf8 "!", suffix, c)

/-- Reads a tag. -/
def scanTag (c : Cursor) : Option (Token × Cursor) := do
  let (handle, suffix, c) ← tagParts c
  let c ← c.need 1
  if endsWord c.peek then some (.tag handle suffix, c) else none

/-! ### Directives -/

/-- The number of digits that a part of a version may have. -/
def versionDigits : Nat := 2

/-- Reads a part of a version. -/
def versionNumber (c : Cursor) : Option (Nat × Cursor) := do
  let (ds, c) ← c.takeWhile Char.isDigit
  if ds.isEmpty || versionDigits < ds.length then none
  else some (ds.foldl (fun n d => 10 * n + (d.toNat - 0x30)) 0, c)

/-- Reads what follows the name of a version directive. -/
def version (c : Cursor) : Option (Token × Cursor) := do
  let (major, c) ← versionNumber (← c.skipWhile isGap)
  if c.sees '.' then
    let (minor, c) ← versionNumber c.skip
    some (.version major minor, c)
  else none

/-- Reads what follows the name of a tag directive. -/
def tagDirective (c : Cursor) : Option (Token × Cursor) := do
  let (handle, c) ← tagHandle (← c.skipWhile isGap)
  let c ← c.need 1
  if (handle == ['!'] || isHandle handle) && c.peek.any isGap then
    let (stem, c) ← properTagText (← c.skipWhile isGap)
    let c ← c.need 1
    if endsWord c.peek then some (.tagDirective (Text.ofChars handle) stem, c) else none
  else none

/-- Reads a directive, with the rest of its line. -/
def scanDirective (c : Cursor) : Option (Token × Cursor) := do
  let (name, c) ← c.skip.takeWhile isNameChar
  let (t, c) ←
    if !endsWord c.peek then none
    else if name == "YAML".toList then version c
    else if name == "TAG".toList then tagDirective c
    else none
  some (t, ← c.endLine)

end Yaml

end LessonLang
