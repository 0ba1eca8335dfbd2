import LessonLang.Pattern
import LessonLang.Text.Fold

/-!
The written structure of patterns.

* `Form` is a pattern as it was put together: literals, sets, sequences, choices, groups and
  repetitions. A sequence in a sequence, and a choice in a choice, are one.
* `Form.height` and `Form.size` measure a form: how deep it is nested, and how many steps a machine
  for it has.
* `Form.chooseOf` joins alternatives. What adjacent alternatives start with is written once, and
  adjacent single characters become one set, so the choice is the smallest of its meaning that can be
  had by comparing neighbours.
* `Form.pattern` is the pattern that a form means.

Forms are built from a `Stock` of parts, which counts the parts that were ever made: parts that are
given back are used again.
-/

namespace LessonLang

/-- How often something is repeated. A repetition is written as a single mark or with numbers. -/
structure Repetition where
  least : Nat
  most : Option Nat
  counted : Bool
  deriving DecidableEq, Repr

/-- The structure of a pattern. -/
inductive Form where
  | empty
  | edge (e : Edge)
  /-- characters in sequence, the last one first; with `anyCase`, in all their cases -/
  | literal (reversed : List Nat) (anyCase : Bool)
  /-- one character of a set in normal form -/
  | set (members : Ranges)
  | sequence (parts : List Form)
  | choice (parts : List Form)
  | group (part : Form)
  | repeated (part : Form) (r : Repetition)
  deriving Repr

namespace Form

/-! ### Measures -/

mutual

/-- How deep a form is nested. -/
def height : Form → Nat
  | sequence parts | choice parts => 1 + heights parts
  | group part | repeated part _ => 1 + part.height
  | empty | edge _ | literal .. | set _ => 1

/-- The greatest height of several forms. -/
def heights : List Form → Nat
  | [] => 0
  | f :: rest => max f.height (heights rest)

end

/-- The size of a repetition of something. -/
def repeatedSize (r : Repetition) (part : Nat) : Nat :=
  match r.most with
  | none => if r.least == 0 then 2 + part else 1 + r.least * part
  | some most => if r.counted then most * part + (most - r.least) else 1 + part

mutual

/-- How many steps a form takes. -/
def size : Form → Nat
  | literal reversed _ => max 1 reversed.length
  | sequence parts => max 1 (sizes parts)
  | choice parts => max 1 (sizes parts + (parts.length - 1))
  | group part => 2 + part.size
  | repeated part r => max 1 (repeatedSize r part.size)
  | empty | edge _ | set _ => 1

/-- The sum of the sizes of several forms. -/
def sizes : List Form → Nat
  | [] => 0
  | f :: rest => f.size + sizes rest

end

mutual

/-- The numbers of repetitions inside each other multiply to at most `n`. -/
def repeatsWithin (n : Nat) : Form → Bool
  | sequence parts | choice parts => allRepeatWithin n parts
  | group part => part.repeatsWithin n
  | repeated part r =>
    let m := r.most.getD r.least
    if !r.counted then part.repeatsWithin n
    else if r.most == some 0 then true
    else if n < m then false
    else part.repeatsWithin (if m == 0 then n else n / m)
  | empty | edge _ | literal .. | set _ => true

/-- `repeatsWithin` of several forms. -/
def allRepeatWithin (n : Nat) : List Form → Bool
  | [] => true
  | f :: rest => f.repeatsWithin n && allRepeatWithin n rest

end

/-! ### Meaning -/

/-- The pattern of single characters in sequence, the last one first, in front of `after`. -/
def literalPattern (anyCase : Bool) (reversed : List Nat) (after : Pattern) : Pattern :=
  reversed.foldl (fun rest cp =>
    let family := if anyCase then caseFamily cp else [cp]
    (Pattern.oneOf (family.map fun x => (x, x))).followedBy rest) after

mutual

/-- The pattern that a form means. -/
def pattern : Form → Pattern
  | empty => .empty
  | edge e => .edge e
  | literal reversed anyCase => literalPattern anyCase reversed .empty
  | set members => .oneOf members
  | sequence parts => inSequence parts
  | choice parts => asChoice parts
  | group part => part.pattern
  | repeated part r => .repeated part.pattern r.least r.most

/-- Forms one behind the other. -/
def inSequence : List Form → Pattern
  | [] => .empty
  | f :: rest => f.pattern.followedBy (inSequence rest)

/-- Any one of several forms. -/
def asChoice : List Form → Pattern
  | [] => .oneOf []
  | f :: rest => if rest.isEmpty then f.pattern else .either f.pattern (asChoice rest)

end

/-! ### Sets -/

/-- The characters of a form that fits single characters only. -/
def members? : Form → Option Ranges
  | set members => some members
  | literal [cp] anyCase => some (if anyCase then Ranges.anyCase [(cp, cp)] else [(cp, cp)])
  | _ => none

/-- The form fits single characters only. -/
def isSet (f : Form) : Bool := f.members?.isSome

/-- One of the characters of two forms. -/
def union (f g : Form) : Form :=
  match f, g with
  | literal x i, literal y j =>
    if x == y && i == j then f
    else set (Ranges.normalize ((f.members?.getD []) ++ (g.members?.getD [])))
  | f, g => set (Ranges.normalize ((f.members?.getD []) ++ (g.members?.getD [])))

/-- A set of one character, or of the two cases of one, as a literal. -/
def literal? (members : Ranges) : Option Form :=
  let alike (a b : Nat) := (caseFamily a).length == 2 && (caseFamily a).contains b
  match members with
  | [(a, b)] =>
    if a == b then some (literal [a] false)
    else if a + 1 == b && alike a b then some (literal [a] true)
    else none
  | [(a, a'), (b, b')] => if a == a' && b == b' && alike a b then some (literal [a] true) else none
  | _ => none

/-! ### Leading parts -/

/-- The literal that a form starts with. -/
def leadingText : Form → List Nat × Bool
  | literal reversed anyCase | sequence (literal reversed anyCase :: _) =>
    (reversed.reverse, anyCase)
  | _ => ([], false)

/-- What a form starts with, apart from the empty text. -/
def leading? : Form → Option Form
  | empty | sequence (empty :: _) => none
  | sequence (f :: _) => some f
  | f => some f

/-- Two forms that fit single characters, or a fixed number of them, and are written alike. -/
def sameSet : Form → Form → Bool
  | set m, set m' => m == m'
  | literal [a] _, literal [b] _ => a == b
  | repeated f r, repeated g r' =>
    r == r' && r.counted && r.most == some r.least &&
      match f, g with
      | set m, set m' => m == m'
      | literal [a] _, literal [b] _ => a == b
      | _, _ => false
  | _, _ => false

end Form

/-! ### Stock -/

/-- The parts that forms are built from: how many were made, and how many of them are not in use. The
product of all numbers of repetitions tells when sizes begin to matter. -/
structure Stock where
  made : Nat := 0
  spare : Nat := 0
  copies : Nat := 1
  sizing : Bool := false

namespace Stock

/-- The greatest size of a form. -/
def greatestSize : Nat := 3355443

/-- Takes a part, a new one if none is spare. -/
def take (s : Stock) : Stock :=
  if s.spare == 0 then { s with made := s.made + 1 } else { s with spare := s.spare - 1 }

/-- Gives a part back. -/
def give (s : Stock) : Stock := { s with spare := s.spare + 1 }

/-- Takes notice of a form. Sizes matter as soon as the parts could be copied too often. -/
def note (s : Stock) (f : Form) : Stock :=
  if s.sizing then s
  else
    let n := match f with
      | .repeated _ r => if r.counted then max 1 (r.most.getD r.least) else 1
      | _ => 1
    let copies := if greatestSize / s.copies < n then greatestSize else s.copies * n
    { s with copies, sizing := greatestSize / copies ≤ s.made }

end Stock

namespace Form

/-! ### Choices -/

/-- What two lists start with in common. -/
def commonPart : List Nat → List Nat → List Nat
  | a :: as, b :: bs => if a == b then a :: commonPart as bs else []
  | _, _ => []

/-- Removes `n` characters at the start of a form. -/
def dropText (n : Nat) (f : Form) : StateM Stock Form :=
  let shorter (reversed : List Nat) := reversed.take (reversed.length - n)
  match f with
  | literal reversed anyCase =>
    pure (if reversed.length ≤ n then empty else literal (shorter reversed) anyCase)
  | sequence (literal reversed anyCase :: rest) =>
    if n < reversed.length then pure (sequence (literal (shorter reversed) anyCase :: rest))
    else do
      modify Stock.give
      match rest with
      | [] => pure empty
      | [f] => do
        modify Stock.give
        pure f
      | rest => pure (sequence rest)
  | f => pure f

/-- Removes what a form starts with; `again` says that it is given back. -/
def dropLeading (again : Bool) (f : Form) : StateM Stock Form := do
  if again then modify Stock.give
  match f with
  | sequence [_] => pure empty
  | sequence [_, f] =>
    modify Stock.give
    pure f
  | sequence (_ :: rest) => pure (sequence rest)
  | _ =>
    modify Stock.take
    pure empty

/-- Adjacent alternatives that start with the same literal, each group with what all of its members
start with. -/
def groupByText : List Form → List (List Nat × Bool × List Form)
  | [] => []
  | f :: rest =>
    let (text, anyCase) := f.leadingText
    match groupByText rest with
    | (text', anyCase', members) :: groups =>
      let common := commonPart text text'
      if anyCase == anyCase' && !common.isEmpty then (common, anyCase, f :: members) :: groups
      else (text, anyCase, [f]) :: (text', anyCase', members) :: groups
    | [] => [(text, anyCase, [f])]

/-- Adjacent alternatives that start with the same set. -/
def groupBySet : List Form → List (List Form)
  | [] => []
  | f :: rest =>
    match groupBySet rest with
    | (g :: members) :: groups =>
      let same := match f.leading?, g.leading? with
        | some x, some y => x.sameSet y
        | _, _ => false
      if same then (f :: g :: members) :: groups else [f] :: (g :: members) :: groups
    | groups => [f] :: groups

/-- Joins adjacent single characters and sets. -/
def joinSets : List Form → StateM Stock (List Form)
  | [] => pure []
  | f :: rest => do
    match ← joinSets rest with
    | g :: joined =>
      if f.isSet && g.isSet then
        modify Stock.give
        pure (f.union g :: joined)
      else pure (f :: g :: joined)
    | [] => pure [f]

/-- Keeps one of adjacent empty alternatives. -/
def joinEmpty : List Form → List Form
  | empty :: empty :: rest => joinEmpty (empty :: rest)
  | f :: rest => f :: joinEmpty rest
  | [] => []

/-- The alternatives of a form. -/
def alternatives : Form → List Form
  | choice parts => parts
  | f => [f]

/-- The parts of a form in sequence. -/
def inOrder : Form → List Form
  | sequence parts => parts
  | f => [f]

/-- Forms in sequence as one form. -/
def arrange (parts : List Form) : StateM Stock Form :=
  match parts with
  | [f] => pure f
  | parts => do
    modify Stock.take
    parts.forM fun f => match f with
      | sequence _ => modify Stock.give
      | _ => pure ()
    pure (sequence (parts.flatMap inOrder))

/-- What is common to alternatives, in front of what is left of them. -/
def withFront (front : Form) (members : List Form)
    (choose : List Form → StateM Stock Form) : StateM Stock Form := do
  members.forM fun f => modify (·.note f)
  let back ← choose members
  modify Stock.take
  pure (sequence [front, back])

/-- Alternatives as one form. Every round leaves shorter alternatives, so the sum of their sizes bounds
the rounds. -/
def choose : (fuel : Nat) → List Form → StateM Stock Form
  | _, [f] => pure f
  | 0, parts => pure (choice parts)
  | fuel + 1, parts => do
    modify Stock.take
    parts.forM fun f => match f with
      | choice _ => modify Stock.give
      | _ => pure ()
    let byText ← (groupByText (parts.flatMap alternatives)).mapM fun (text, anyCase, members) =>
      match members with
      | [f] => pure f
      | members => do
        modify Stock.take
        let rests ← members.mapM (dropText text.length)
        withFront (literal text.reverse anyCase) rests (choose fuel)
    let bySet ← (groupBySet byText).mapM fun members =>
      match members with
      | [f] => pure f
      | f :: others => do
        let first ← f.dropLeading false
        let rests ← others.mapM (dropLeading true)
        withFront (f.leading?.getD empty) (first :: rests) (choose fuel)
      | [] => pure empty
    match joinEmpty (← joinSets bySet) with
    | [f] =>
      modify Stock.give
      pure f
    | parts => pure (choice parts)

/-- Alternatives as one form. -/
def chooseOf (parts : List Form) : StateM Stock Form :=
  match parts with
  | [f] => pure f
  | parts => choose (sizes parts + 1) parts

end Form

end LessonLang
