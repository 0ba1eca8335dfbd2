import LessonLang.Text.Utf8

/-!
Bytes of a YAML text as characters.

* `Encoding` is UTF-8 or one of the two byte orders of UTF-16. A mark in front of the text tells
  which.
* `Source` is a text as far as it can be read: its characters in blocks. Bytes are taken in by blocks
  of a fixed size; a character that does not fit into its block opens the next one. A block with a
  damaged or forbidden character cannot be read at all, and nothing behind it can.
* `Source.ofText` reads a text. What is wrong with it only shows when the reading gets there.
-/

namespace LessonLang

namespace Yaml

/-- How characters are encoded. -/
inductive Encoding where
  | utf8 | utf16Little | utf16Big
  deriving DecidableEq, Repr

/-- The encoding that the mark in front of a text tells, and the width of the mark. -/
def Encoding.ofMark : Text → Encoding × Nat
  | 0xff :: 0xfe :: _ => (.utf16Little, 2)
  | 0xfe :: 0xff :: _ => (.utf16Big, 2)
  | 0xef :: 0xbb :: 0xbf :: _ => (.utf8, 3)
  | _ => (.utf8, 0)

/-- The number of bytes of a character in UTF-8 that starts with the byte `b`; zero for a byte that
starts none. -/
def leadWidth (b : UInt8) : Nat :=
  if b < 0x80 then 1
  else if b &&& 0xe0 == 0xc0 then 2
  else if b &&& 0xf0 == 0xe0 then 3
  else if b &&& 0xf8 == 0xf0 then 4
  else 0

/-- A code unit of UTF-16 from its bytes. -/
def unit (e : Encoding) (a b : UInt8) : Nat :=
  if e == .utf16Big then 256 * a.toNat + b.toNat else 256 * b.toNat + a.toNat

/-- What the next bytes are. -/
inductive Reading where
  /-- a character of some width -/
  | char (c : Char) (width : Nat)
  /-- the start of a character that would have this width, at the end of the text -/
  | part (width : Nat)
  /-- bytes of this width that are no character -/
  | damaged (width : Nat)

namespace Reading

/-- Reads a character in UTF-8. -/
def ofUtf8 (b : UInt8) (rest : Text) : Reading :=
  let width := leadWidth b
  if width == 0 then damaged 1
  else if rest.length + 1 < width then part width
  else match Text.first b (rest.take (width - 1)) with
    | (.char c, w) => char c w
    | (.stray _, _) => damaged width

/-- Reads a character in UTF-16. A pair of units stands for a character above U+FFFF. -/
def ofUtf16 (e : Encoding) (b : UInt8) : (rest : Text) → Reading
  | [] => part 2
  | b1 :: rest =>
    let high := unit e b b1
    if 0xdc00 ≤ high && high < 0xe000 then damaged 2
    else if 0xd800 ≤ high && high < 0xdc00 then
      match rest with
      | b2 :: b3 :: _ =>
        let low := unit e b2 b3
        if 0xdc00 ≤ low && low < 0xe000 then
          char (Char.ofNat (0x10000 + 1024 * (high - 0xd800) + (low - 0xdc00))) 4
        else damaged 4
      | _ => part 4
    else char (Char.ofNat high) 2

/-- Reads a character. -/
def next (e : Encoding) (b : UInt8) (rest : Text) : Reading :=
  match e with
  | .utf8 => ofUtf8 b (rest.take 3)
  | e => ofUtf16 e b (rest.take 3)

end Reading

/-- A character that may stand in a YAML text. -/
def isAllowed (c : Char) : Bool :=
  c == '\t' || c == '\n' || c == '\r' || (0x20 ≤ c.toNat && c.toNat ≤ 0x7e) || c == '\x85'
    || (0xa0 ≤ c.toNat && c.toNat ≤ 0xfffd) || 0x10000 ≤ c.toNat

/-- The number of bytes of a block. -/
def blockSize : Nat := 512

/-- A text as far as it can be read: its characters, the number of them in each block, and whether the
text ends properly behind the last block. -/
structure Source where
  chars : List Char
  blocks : List Nat
  sound : Bool
  deriving DecidableEq, Repr

namespace Source

/-- Nothing of the current block can be read. -/
def unreadable : Source := ⟨[], [], false⟩

/-- Puts a character in front of the current block. An unreadable block stays so. -/
def add (c : Char) (s : Source) : Source :=
  match s.blocks with
  | [] => { s with chars := c :: s.chars }
  | n :: blocks => { s with chars := c :: s.chars, blocks := (n + 1) :: blocks }

/-- Closes the block in front of the current one. -/
def newBlock (s : Source) : Source := { s with blocks := 0 :: s.blocks }

/-- Reads bytes. `skip` of them still belong to the character read last, and `room` bytes of the
current block are free behind those. -/
def read (e : Encoding) : (skip room : Nat) → Text → Source
  | _, _, [] => ⟨[], [0], true⟩
  | skip + 1, room, _ :: rest => read e skip room rest
  | 0, room, b :: rest =>
    let place (width : Nat) (here : Source) : Source := if width ≤ room then here else here.newBlock
    match Reading.next e b rest with
    | .damaged width => place width unreadable
    | .part width => place width ⟨[], [0], false⟩
    | .char c width =>
      let more := read e (width - 1) ((if width ≤ room then room else blockSize) - width) rest
      place width (if isAllowed c then more.add c else unreadable)

/-- Reads a text. -/
def ofText (t : Text) : Source :=
  let (e, width) := Encoding.ofMark t
  read e width (blockSize - width) t

end Source

end Yaml

end LessonLang
