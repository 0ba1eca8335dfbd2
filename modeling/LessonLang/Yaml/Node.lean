import LessonLang.Yaml.Tag
import LessonLang.Yaml.TokenQueue

/-!
YAML documents as trees of nodes.

* `Node` is a scalar, a sequence, a mapping or an alias. Nodes with an anchor are numbered, and an alias
  has the number of the node it refers to; so an alias may stand inside that node.
* `Document` is a root and the nodes with anchors. `Document.ofText` reads the first document of a text.
  What follows that document is not looked at, beyond the tokens that are read ahead.

Every node has a tag in its short form; a node for which none was written has the tag that follows
from its form.
-/

namespace LessonLang

namespace Yaml

/-- A node, with the line it starts on, counted from one. Aliases are numbered too. -/
inductive Node where
  | scalar (line : Nat) (tag value : Text)
  | sequence (line : Nat) (tag : Text) (items : List Node)
  | mapping (line : Nat) (tag : Text) (entries : List (Node × Node))
  | aliasNode (line : Nat) (name : Text) (number target : Nat)
  deriving Inhabited

namespace Node

/-- The line of a node. -/
def line : Node → Nat
  | scalar l .. | sequence l .. | mapping l .. | aliasNode l .. => l

/-- The tag of a node. An alias has none of its own. -/
def tag : Node → Text
  | scalar _ t _ | sequence _ t _ | mapping _ t _ => t
  | aliasNode .. => []

/-- The text of a scalar or the name of an alias. -/
def written : Node → Text
  | scalar _ _ v => v
  | aliasNode _ name _ _ => name
  | _ => []

/-- A node for which nothing was written. -/
def empty (line : Nat) : Node := scalar line Tag.null []

end Node

/-- A document: its root, the nodes with anchors by their numbers, the number of its aliases, and a
bound for the number of its nodes. -/
structure Document where
  root : Node
  anchored : List (Nat × Node)
  aliases : Nat
  size : Nat

/-- What may stand in front of a node. -/
structure Properties where
  line : Nat
  anchor : Option Text := none
  tag : Text := []

namespace Properties

/-- The tag of a node, if it is `implied` where none is given. -/
def tagOr (p : Properties) (implied : Text) : Text :=
  if p.tag.isEmpty || p.tag == utf8 "!" then implied else Tag.short p.tag

/-- A scalar with these properties. -/
def scalar (p : Properties) (plain : Bool) (value : Text) : Node :=
  let implied :=
    if !plain then Tag.str
    else if value == utf8 "<<" then Tag.merge
    else Tag.natural value
  .scalar p.line (p.tagOr implied) value

end Properties

/-- How far a document has been read: the tokens that are left, the numbers of the anchors by their
names, the latest first, and the nodes with anchors that are complete. -/
structure Progress where
  queue : TokenQueue
  names : List (Text × Nat) := []
  anchored : List (Nat × Node) := []
  anchors : Nat := 0
  aliases : Nat := 0

/-- Reads part of a document, or fails. -/
abbrev Reader := StateT Progress Option

namespace Reader

/-- The meaning of tag handles. -/
abbrev Handles := List (Text × Text)

/-- The next token. -/
def peek : Reader Located := do
  let p ← get
  let (t, queue) ← (p.queue.peek : Option _)
  set { p with queue }
  pure t

/-- Goes on behind the next token. -/
def skip : Reader Unit := modify fun p => { p with queue := p.queue.take }

/-- Goes on behind the next token and shows the one after it. -/
def following : Reader Located := do
  skip
  peek

/-- The text is malformed. -/
def fail {α : Type} : Reader α := fun _ => none

/-- The tag that a handle and a suffix stand for. -/
def expandTag (handles : Handles) (handle suffix : Text) : Reader Text :=
  if handle.isEmpty then pure suffix
  else match handles.lookup handle with
    | none => fail
    | some stem => if (stem ++ suffix).isEmpty then fail else pure (stem ++ suffix)

/-- Reads an anchor and a tag in front of a node, in either order. -/
def properties (handles : Handles) : Reader Properties := do
  let t ← peek
  match t.token with
  | .anchor name =>
    let u ← following
    match u.token with
    | .tag handle suffix =>
      skip
      pure ⟨t.line + 1, some name, ← expandTag handles handle suffix⟩
    | _ => pure ⟨t.line + 1, some name, []⟩
  | .tag handle suffix =>
    let tag ← expandTag handles handle suffix
    let u ← following
    match u.token with
    | .anchor name =>
      skip
      pure ⟨t.line + 1, some name, tag⟩
    | _ => pure ⟨t.line + 1, none, tag⟩
  | _ => pure ⟨t.line + 1, none, []⟩

/-- An alias. -/
def aliasOf (line : Nat) (name : Text) : Reader Node := do
  let p ← get
  match p.names.lookup name with
  | none => fail
  | some target =>
    set { p with aliases := p.aliases + 1 }
    skip
    pure (.aliasNode line name p.aliases target)

/-- Reads a node with given properties. Its anchor is known while the node is being read. -/
def anchored (props : Properties) (read : Reader Node) : Reader Node :=
  match props.anchor with
  | none => read
  | some name => do
    let number := (← get).anchors
    modify fun p => { p with names := (name, number) :: p.names, anchors := number + 1 }
    let n ← read
    modify fun p => { p with anchored := (number, n) :: p.anchored }
    pure n

/-- A node of which only an anchor or a tag is written. -/
def nothing (props : Properties) : Reader Node :=
  if props.anchor.isNone && props.tag.isEmpty then fail
  else anchored props (pure (props.scalar true []))

mutual

/-- Reads a node. `block` allows block collections, and `bare` allows a sequence that is not indented
deeper than the mapping around it. -/
def node (handles : Handles) (block bare : Bool) : (fuel : Nat) → Reader Node
  | 0 => fail
  | fuel + 1 => do
    let t ← peek
    match t.token with
    | .aliasName name => aliasOf (t.line + 1) name
    | _ =>
      let props ← properties handles
      let u ← peek
      let asSequence (items : Reader (List Node)) : Reader Node :=
        anchored props do pure (.sequence props.line (props.tagOr Tag.seq) (← items))
      let asMapping (entries : Reader (List (Node × Node))) : Reader Node :=
        anchored props do pure (.mapping props.line (props.tagOr Tag.map) (← entries))
      match u.token, block, bare with
      | .scalar plain text, _, _ =>
        anchored props do
          skip
          pure (props.scalar plain text)
      | .blockEntry, _, true => asSequence (bareItems handles fuel)
      | .flowSequenceStart, _, _ =>
        asSequence do
          skip
          flowItems handles true fuel
      | .flowMappingStart, _, _ =>
        asMapping do
          skip
          flowEntries handles true fuel
      | .blockSequenceStart, true, _ =>
        asSequence do
          skip
          blockItems handles fuel
      | .blockMappingStart, true, _ =>
        asMapping do
          skip
          blockEntries handles fuel
      | _, _, _ => nothing props

/-- Reads the items of a block sequence, to its end. -/
def blockItems (handles : Handles) : (fuel : Nat) → Reader (List Node)
  | 0 => fail
  | fuel + 1 => do
    let t ← peek
    match t.token with
    | .blockEntry =>
      let u ← following
      let n ←
        if [.blockEntry, .blockEnd].contains u.token then pure (.empty (t.line + 1))
        else node handles true false fuel
      let ns ← blockItems handles fuel
      pure (n :: ns)
    | .blockEnd =>
      skip
      pure []
    | _ => fail

/-- Reads the items of a sequence that is not indented. -/
def bareItems (handles : Handles) : (fuel : Nat) → Reader (List Node)
  | 0 => fail
  | fuel + 1 => do
    let t ← peek
    match t.token with
    | .blockEntry =>
      let u ← following
      let n ←
        if [.blockEntry, .key, .value, .blockEnd].contains u.token then pure (.empty (t.line + 1))
        else node handles true false fuel
      let ns ← bareItems handles fuel
      pure (n :: ns)
    | _ => pure []

/-- Reads the entries of a block mapping, to its end. -/
def blockEntries (handles : Handles) : (fuel : Nat) → Reader (List (Node × Node))
  | 0 => fail
  | fuel + 1 => do
    let t ← peek
    match t.token with
    | .key =>
      let u ← following
      let k ←
        if [.key, .value, .blockEnd].contains u.token then pure (.empty (t.line + 1))
        else node handles true true fuel
      let v ← blockValue handles fuel
      let es ← blockEntries handles fuel
      pure ((k, v) :: es)
    | .blockEnd =>
      skip
      pure []
    | _ => fail

/-- Reads the value of an entry of a block mapping. -/
def blockValue (handles : Handles) : (fuel : Nat) → Reader Node
  | 0 => fail
  | fuel + 1 => do
    let t ← peek
    match t.token with
    | .value =>
      let u ← following
      if [.key, .value, .blockEnd].contains u.token then pure (.empty (t.line + 1))
      else node handles true true fuel
    | _ => pure (.empty (t.line + 1))

/-- Reads the items of a flow sequence, to its end. An item may be a mapping of one entry without
braces. -/
def flowItems (handles : Handles) (first : Bool) : (fuel : Nat) → Reader (List Node)
  | 0 => fail
  | fuel + 1 => do
    let t ← peek
    let t ←
      if first || t.token == .flowSequenceEnd then pure t
      else if t.token == .flowEntry then following
      else fail
    match t.token with
    | .flowSequenceEnd =>
      skip
      pure []
    | .key =>
      skip
      let k ← pairKey handles fuel
      let v ← pairValue handles fuel
      let ns ← flowItems handles false fuel
      pure (.mapping (t.line + 1) Tag.map [(k, v)] :: ns)
    | _ =>
      let n ← node handles false false fuel
      let ns ← flowItems handles false fuel
      pure (n :: ns)

/-- Reads the key of a mapping of one entry. Where the key is missing, the token that ends it is
passed over. -/
def pairKey (handles : Handles) : (fuel : Nat) → Reader Node
  | 0 => fail
  | fuel + 1 => do
    let t ← peek
    if [.value, .flowEntry, .flowSequenceEnd].contains t.token then
      skip
      pure (.empty (t.line + 1))
    else node handles false false fuel

/-- Reads the value of a mapping of one entry. -/
def pairValue (handles : Handles) : (fuel : Nat) → Reader Node
  | 0 => fail
  | fuel + 1 => do
    let t ← peek
    if t.token == .value then
      let u ← following
      if [.flowEntry, .flowSequenceEnd].contains u.token then pure (.empty (u.line + 1))
      else node handles false false fuel
    else pure (.empty (t.line + 1))

/-- Reads the entries of a flow mapping, to its end. -/
def flowEntries (handles : Handles) (first : Bool) : (fuel : Nat) → Reader (List (Node × Node))
  | 0 => fail
  | fuel + 1 => do
    let t ← peek
    let t ←
      if first || t.token == .flowMappingEnd then pure t
      else if t.token == .flowEntry then following
      else fail
    match t.token with
    | .flowMappingEnd =>
      skip
      pure []
    | .key =>
      let u ← following
      let k ←
        if [.value, .flowEntry, .flowMappingEnd].contains u.token then pure (.empty (u.line + 1))
        else node handles false false fuel
      let v ← flowValue handles fuel
      let es ← flowEntries handles false fuel
      pure ((k, v) :: es)
    | _ =>
      let k ← node handles false false fuel
      let u ← peek
      let es ← flowEntries handles false fuel
      pure ((k, .empty (u.line + 1)) :: es)

/-- Reads the value of an entry of a flow mapping. -/
def flowValue (handles : Handles) : (fuel : Nat) → Reader Node
  | 0 => fail
  | fuel + 1 => do
    let t ← peek
    if t.token == .value then
      let u ← following
      if [.flowEntry, .flowMappingEnd].contains u.token then pure (.empty (u.line + 1))
      else node handles false false fuel
    else pure (.empty (t.line + 1))

end

/-- The handles that every document knows. -/
def standardHandles : Handles :=
  [(utf8 "!", utf8 "!"), (utf8 "!!", utf8 "tag:yaml.org,2002:")]

/-- Reads the directives in front of a document. There is at most one version, and it is 1.1; no
handle is declared twice. -/
def directives : (fuel : Nat) → (versioned : Bool) → Handles → Reader Handles
  | 0, _, _ => fail
  | fuel + 1, versioned, handles => do
    let t ← peek
    match t.token with
    | .version major minor =>
      if versioned || major != 1 || minor != 1 then fail
      else
        skip
        directives fuel true handles
    | .tagDirective handle stem =>
      if (handles.lookup handle).isSome then fail
      else
        skip
        directives fuel versioned (handles ++ [(handle, stem)])
    | _ => pure handles

/-- Reads the content of a document behind its marker. -/
def markedContent (handles : Handles) (fuel : Nat) : Reader Node := do
  let t ← peek
  match t.token with
  | .version .. | .tagDirective .. | .documentStart | .documentEnd | .streamEnd =>
    pure (.empty (t.line + 1))
  | _ => node handles true false fuel

/-- Reads the root of the first document, if there is a document, and looks at what ends it. -/
def root (fuel : Nat) : Reader (Option Node) := do
  let _ ← peek
  let t ← following
  match t.token with
  | .streamEnd => pure none
  | .version .. | .tagDirective .. | .documentStart =>
    let handles ← directives fuel false []
    let u ← peek
    if u.token == .documentStart then
      skip
      let n ← markedContent (handles ++ standardHandles) fuel
      let _ ← peek
      pure (some n)
    else fail
  | _ =>
    let n ← node standardHandles true false fuel
    let _ ← peek
    pure (some n)

end Reader

/-- What reading a text can come to. -/
inductive DocumentResult where
  /-- there is no document -/
  | none
  | malformed
  | found (d : Document)

/-- Reads the first document of a text. -/
def Document.ofText (t : Text) : DocumentResult :=
  match TokenQueue.ofText t with
  | none => .malformed
  | some queue =>
    match (Reader.root (8 * (queue.size + 8))).run { queue } with
    | none => .malformed
    | some (none, _) => .none
    | some (some root, p) => .found ⟨root, p.anchored, p.aliases, p.queue.taken + 1⟩

end Yaml

end LessonLang
