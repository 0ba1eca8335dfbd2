import LessonLang.Text.Base64
import LessonLang.Text.Quoted
import LessonLang.Yaml.Node

/-!
Nodes as values of known types.

* A `Decoder` reads a node of a document. It notes every `Misfit`, a place where the document has the
  wrong type, and goes on; a `Fault` ends it at once.
* `Decoder.follow` comes to a node and, if that is an alias, goes on to the node it refers to. An alias
  that is met again while it is being followed has no meaning. The nodes that are come to are counted,
  so that a document which repeats itself too much is refused.
* `Decoder.text` reads a scalar as text and `Decoder.listOf` a sequence.
-/

namespace LessonLang

namespace Yaml

/-- A place where a document has the wrong type. -/
inductive Misfit where
  | type (line : Nat) (tag value expected : Text)
  | repeatedKey (line : Nat) (key : Text) (first : Nat)
  | unknownField (line : Nat) (field record : Text)
  | repeatedField (line : Nat) (field record : Text)
  deriving DecidableEq, Repr

/-- A value as it is shown for a misfit: shortened, between marks. Collections show none. -/
def shownValue (tag value : Text) : Text :=
  if tag == Tag.seq || tag == Tag.map then value
  else
    utf8 " `" ++ (if 10 < value.length then value.take 7 ++ utf8 "..." else value) ++ [0x60]

/-- The misfit in words. -/
def Misfit.message : Misfit → Text
  | type line tag value expected =>
    utf8 "line " ++ Text.ofNat line ++ utf8 ": cannot unmarshal " ++ tag ++ shownValue tag value
      ++ utf8 " into " ++ expected
  | repeatedKey line key first =>
    utf8 "line " ++ Text.ofNat line ++ utf8 ": mapping key " ++ key.quoted
      ++ utf8 " already defined at line " ++ Text.ofNat first
  | unknownField line field record =>
    utf8 "line " ++ Text.ofNat line ++ utf8 ": field " ++ field ++ utf8 " not found in type " ++ record
  | repeatedField line field record =>
    utf8 "line " ++ Text.ofNat line ++ utf8 ": field " ++ field ++ utf8 " already set in type "
      ++ record

/-- The message for a document with misfits. -/
def misfitsMessage (ms : List Misfit) : Text :=
  utf8 "yaml: unmarshal errors:\n  " ++ Text.join (utf8 "\n  ") (ms.map Misfit.message)

/-- What ends the reading of a document. -/
inductive Fault where
  /-- the document is no YAML, or uses it in a way that has no meaning -/
  | malformed
  /-- the document does not say what it should -/
  | refused (message : Text)
  /-- the document has misfits, in a part that `context` names -/
  | misfits (context : Text) (ms : List Misfit)
  deriving DecidableEq, Repr

/-- Too many of the nodes that were come to lie behind aliases. Up to a size of `low`, the part of them
may be 99 percent; from there it falls evenly, to 10 percent at a size of `high`. -/
def isExcessive (aliased decoded : Nat) : Bool :=
  let low := 400000
  let high := 4000000
  100 < aliased && 1000 < decoded &&
    (if decoded ≤ low then 99 * decoded < 100 * aliased
     else if high ≤ decoded then decoded < 10 * aliased
     else (99 * (high - low) - 89 * (decoded - low)) * decoded < 100 * (high - low) * aliased)

/-- What is known while a document is read: its nodes with anchors, a bound for how deep aliases may
lead, the misfits so far, how many nodes were come to, how many of these behind an alias, the aliases that
are being followed, and when too many nodes lie behind aliases. -/
structure DecodeState where
  anchored : List (Nat × Node)
  depth : Nat
  misfits : List Misfit := []
  decoded : Nat := 0
  aliased : Nat := 0
  following : List Nat := []
  limit : Nat → Nat → Bool := isExcessive

/-- Reads part of a document and notes misfits. -/
abbrev Decoder (α : Type) := StateT DecodeState (Except Fault) α

namespace Decoder

variable {α : Type}

/-- Notes a misfit. -/
def note (m : Misfit) : Decoder Unit := modify fun s => { s with misfits := s.misfits ++ [m] }

/-- Ends the reading. -/
def fail (f : Fault) : Decoder α := throw f

/-- Runs a decoder on its own, with counts of its own, and gives its value and its misfits. -/
def separately (d : Decoder α) : Decoder (α × List Misfit) := fun s =>
  match d.run { anchored := s.anchored, depth := s.depth, limit := s.limit } with
  | .ok (a, t) => .ok ((a, t.misfits), s)
  | .error f => .error f

/-- Runs a decoder on its own; its value counts only if it has no misfits. -/
def whole (d : Decoder α) : Decoder (Option α) := do
  let (a, ms) ← separately d
  ms.forM note
  pure (if ms.isEmpty then some a else none)

/-- Names the part of the document in the errors of a decoder. -/
def explain (context : Text) (d : Decoder α) : Decoder α := fun s =>
  match d.run s with
  | .ok result => .ok result
  | .error (.refused m) => .error (.refused (context ++ m))
  | .error (.misfits c ms) => .error (.misfits (context ++ c) ms)
  | .error .malformed => .error .malformed

/-- Runs a decoder on its own, which must succeed without misfits; the errors name the part it
reads. -/
def within (context : Text) (d : Decoder α) : Decoder α :=
  explain context do
    let (a, ms) ← separately d
    if ms.isEmpty then pure a else fail (.misfits [] ms)

/-- Counts a node. -/
def visit : Decoder Unit := do
  modify fun s =>
    { s with decoded := s.decoded + 1, aliased := s.aliased + if s.following.isEmpty then 0 else 1 }
  let s ← get
  if s.limit s.aliased s.decoded then fail .malformed

/-- Comes to a node and reads it with `read`, which gets the node that is meant and no alias. -/
def follow (n : Node) (read : Node → Decoder α) : Decoder α := do
  visit
  match n with
  | .aliasNode _ _ number target =>
    let s ← get
    if s.following.contains number then fail .malformed
    else match s.anchored.lookup target with
      | none => fail .malformed
      | some n =>
        set { s with following := number :: s.following }
        visit
        let a ← read n
        modify fun t => { t with following := s.following }
        pure a
  | n => read n

/-! ### Scalars -/

/-- The type and the text of a scalar, with encoded bytes decoded. -/
def scalar (tag value : Text) : Decoder (Text × Text) :=
  match Tag.resolve? tag value with
  | none => fail .malformed
  | some found =>
    if found == Tag.binary then
      match Base64.decode? value with
      | some bytes => pure (found, bytes)
      | none => fail .malformed
    else pure (found, value)

end Decoder

/-! ### Keys -/

namespace Node

/-- The misfit of a node where a given type is expected. -/
def misfit (n : Node) (expected : Text) : Misfit := .type n.line n.tag n.written expected

/-- Two keys that count as the same in one mapping. -/
def sameKey : Node → Node → Bool
  | scalar _ _ a, scalar _ _ b => a == b
  | aliasNode _ a _ _, aliasNode _ b _ _ => a == b
  | sequence .., sequence .. => true
  | mapping .., mapping .. => true
  | _, _ => false

/-- The misfits for keys that occur more than once. -/
def repeatedKeys : List Node → List Misfit
  | [] => []
  | k :: rest =>
    (rest.filter k.sameKey).map (fun j => .repeatedKey j.line j.written k.line) ++ repeatedKeys rest

end Node

namespace Decoder

variable {α : Type}

/-- Checks that the keys of a mapping differ, and notes those that do not. -/
def distinctKeys (entries : List (Node × Node)) : Decoder Bool := do
  let ms := Node.repeatedKeys (entries.map (·.1))
  ms.forM note
  pure ms.isEmpty

/-- Notes that a node has the wrong type. For a mapping with keys that are the same, those are noted
instead. -/
def mismatch (n : Node) (expected : Text) : Decoder Unit := do
  match n with
  | .mapping _ _ entries => if ← distinctKeys entries then note (n.misfit expected)
  | n => note (n.misfit expected)

/-! ### Texts and lists -/

/-- Reads a text. Null gives none, and so does a misfit. -/
def text (n : Node) : Decoder (Option Text) :=
  follow n fun
    | .scalar _ tag value => do
      let (found, t) ← scalar tag value
      pure (if found == Tag.null then none else some t)
    | n => do
      mismatch n (utf8 "string")
      pure none

/-- Reads a sequence of a type with the given name from a node that is no alias. Items that give
nothing are dropped. -/
def listOf (expected : Text) (item : Node → Decoder (Option α)) (n : Node) :
    Decoder (Option (List α)) := do
  match n with
  | .sequence _ _ items => pure (some ((← items.mapM item).filterMap id))
  | .scalar _ tag value =>
    let (found, _) ← scalar tag value
    if found == Tag.null then pure (some [])
    else
      mismatch n expected
      pure none
  | n =>
    mismatch n expected
    pure none

end Decoder

end Yaml

end LessonLang
