import LessonLang.Yaml.Decoder

/-!
Mappings as values of known types.

* `MappingType` says how the entries of a mapping are read into a value. `MappingType.read` reads a
  node of that type.
* `MappingType.record` is the type of mappings with known fields.
* One entry of a mapping may merge in another one, or several. Their entries count only if no nearer
  mapping has the same key.
* `readDocument` reads a whole document.

A node that is null leaves a record as it was.
-/

namespace LessonLang

namespace Yaml

/-- How a mapping is read into a value of type `σ`. -/
structure MappingType (σ : Type) where
  /-- the name of the type, for misfits -/
  name : Text
  /-- what a null makes of a value, if it makes anything -/
  null : σ → Option σ := fun _ => none
  /-- another way to read any node that has not the tag of null -/
  own : Option (Node → σ → Decoder σ) := none
  /-- reads an entry, given the keys in front of it, the line of the key, the key and the value -/
  entry : List Text → Nat → Text → Node → σ → Decoder σ

namespace MappingType

variable {σ : Type} (r : MappingType σ)

/-- The key under which another mapping is merged in. -/
def isMergeKey : Node → Bool
  | .scalar _ tag value => value == utf8 "<<" && tag == Tag.merge
  | _ => false

/-- What is known between the entries of a mapping: the value so far, the keys of this mapping, and the
keys that nearer mappings have, if this one is merged in. -/
structure State (σ : Type) where
  value : σ
  done : List Text := []
  nearer : Option (List Text) := none

/-- Reads one entry. -/
def readEntry (s : State σ) (e : Node × Node) : Decoder (State σ) := do
  if isMergeKey e.1 then pure s
  else
    match ← Decoder.text e.1 with
    | none => pure s
    | some key =>
      if s.nearer.any (·.contains key) then pure s
      else
        let value ← r.entry s.done e.1.line key e.2 s.value
        pure ⟨value, key :: s.done, s.nearer.map (key :: ·)⟩

/-- The keys of a mapping that are texts by their type. -/
def textKeys (entries : List (Node × Node)) : Decoder (List Text) := do
  let keys ← entries.mapM fun (k, _) =>
    Decoder.follow k fun
      | .scalar _ tag value => do
        let (found, t) ← Decoder.scalar tag value
        pure (if Tag.checked.contains found then none else some t)
      | _ => pure none
  pure (keys.filterMap id)

/-- The nodes that the value of a merge key stands for: one, or the items of a sequence. -/
def mergedNodes : Node → List Node
  | .sequence _ _ items => items
  | n => [n]

/-- Reads a node that is no alias. `nearer` are the keys of nearer mappings, if the node is merged in,
and comes back with the keys of this one. The result also says whether there was a value. -/
def readNode : (depth : Nat) → Option (List Text) → σ → Node →
    Decoder (Bool × Option (List Text) × σ)
  | 0, _, _, _ => .fail .malformed
  | depth + 1, nearer, value, n => do
    match (if n.tag == Tag.null then none else r.own), n with
    | some own, n => pure (true, nearer, ← own n value)
    | none, .scalar _ tag text =>
      let (found, _) ← Decoder.scalar tag text
      if found == Tag.null then
        let after := r.null value
        pure (after.isSome, nearer, after.getD value)
      else
        Decoder.mismatch n r.name
        pure (false, nearer, value)
    | none, .mapping _ _ entries =>
      if ← Decoder.distinctKeys entries then
        let s ← entries.foldlM r.readEntry { value, nearer }
        match entries.find? (isMergeKey ·.1) with
        | none => pure (true, s.nearer, s.value)
        | some (_, merged) =>
          let keys ← match s.nearer with
            | some keys => pure keys
            | none => textKeys entries
          let (keys, value) ← (mergedNodes merged).foldlM (fun (keys, value) m =>
            match m with
            | .scalar .. | .sequence .. => .fail .malformed
            | m => Decoder.follow m fun
              | .mapping l t es => do
                let (_, keys', value) ← readNode depth (some keys) value (.mapping l t es)
                pure (keys'.getD keys, value)
              | _ => .fail .malformed) (keys, s.value)
          pure (true, s.nearer.map fun _ => keys, value)
      else pure (false, nearer, value)
    | none, n =>
      Decoder.mismatch n r.name
      pure (false, nearer, value)

/-- Reads a node, starting from a value. The result says whether there was one. -/
def read (value : σ) (n : Node) : Decoder (Bool × σ) :=
  Decoder.follow n fun n => do
    let (good, _, value) ← r.readNode (← get).depth none value n
    pure (good, value)

end MappingType

/-! ### Records -/

/-- A known field of a record with values in `σ`. -/
structure Field (σ : Type) where
  name : Text
  read : Node → σ → Decoder σ

/-- A field that holds a text. -/
def Field.ofText {σ : Type} (name : String) (set : σ → Text → σ) : Field σ :=
  ⟨utf8 name, fun n s => do
    match ← Decoder.text n with
    | some t => pure (set s t)
    | none => pure s⟩

/-- A mapping with known fields. In a strict one, other fields are misfits. -/
def MappingType.record {σ : Type} (name : String) (strict : Bool) (fields : List (Field σ)) :
    MappingType σ where
  name := utf8 name
  entry done line key v value := do
    match fields.find? (·.name == key) with
    | none =>
      if strict then .note (.unknownField line key (utf8 name))
      pure value
    | some f =>
      if done.contains key then
        .note (.repeatedField line key (utf8 name))
        pure value
      else f.read v value

/-! ### Documents -/

/-- Why a document cannot be read as a value. -/
inductive DocumentError where
  | noDocument
  | fault (f : Fault)
  deriving DecidableEq, Repr

/-- The error in words. -/
def DocumentError.message : DocumentError → Text
  | noDocument => utf8 "EOF"
  | fault .malformed => utf8 "yaml: malformed document"
  | fault (.refused m) => m
  | fault (.misfits context ms) => context ++ misfitsMessage ms

/-- Reads a document with a decoder for its root. The document counts as a node of its own. -/
def Document.decode {α : Type} (d : Document) (read : Node → Decoder α)
    (limit : Nat → Nat → Bool := isExcessive) : Except Fault α :=
  let start : DecodeState :=
    { anchored := d.anchored, depth := (d.aliases + 1) * (d.size + 1), limit }
  let all : Decoder α := do
    .visit
    read d.root
  match all.run start with
  | .error f => .error f
  | .ok (a, s) => if s.misfits.isEmpty then .ok a else .error (.misfits [] s.misfits)

/-- Reads the first document of a text as a mapping. -/
def readDocument {σ : Type} (r : MappingType σ) (init : σ) (t : Text) : Except DocumentError σ :=
  match Document.ofText t with
  | .none => .error .noDocument
  | .malformed => .error (.fault .malformed)
  | .found d =>
    match d.decode (r.read init) with
    | .ok (_, s) => .ok s
    | .error f => .error (.fault f)

end Yaml

end LessonLang
