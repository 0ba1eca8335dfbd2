import LessonLang.Pattern

/-!
Searching texts for patterns.

* `Pattern.steps` turns a pattern into the steps of a machine. Each step says which steps may come
  next, and reading a character is one of them.
* `SearchSteps.reach` follows all steps that read nothing, from several steps at once. No step is
  followed twice at one place of the text, so a search takes at most one round through all steps for
  every character.
* `Pattern.occursIn` says that a pattern fits some part of a text. Every place of the text is a
  possible start, so the first step is always among those that are followed.
-/

namespace LessonLang

/-- A step of a search, with the numbers of those that may come next. -/
inductive SearchStep where
  /-- the pattern fits -/
  | found
  /-- reads a character of a set -/
  | read (set : Ranges) (next : Nat)
  | edge (e : Edge) (next : Nat)
  | fork (left right : Nat)
  deriving DecidableEq, Repr

/-- The steps of a search. -/
abbrev SearchSteps := Array SearchStep

namespace Pattern

/-- Adds steps several times, each time in front of the ones before. -/
def prepend (n : Nat) (add : Nat → SearchSteps → Nat × SearchSteps) (next : Nat)
    (steps : SearchSteps) : Nat × SearchSteps :=
  n.repeat (fun (next, steps) => add next steps) (next, steps)

/-- Adds the steps for a pattern that the step `next` follows. Gives the number of the first. -/
def addSteps : Pattern → (next : Nat) → SearchSteps → Nat × SearchSteps
  | empty, next, steps => (next, steps)
  | edge e, next, steps => (steps.size, steps.push (.edge e next))
  | oneOf set, next, steps => (steps.size, steps.push (.read set next))
  | both p q, next, steps =>
    let (middle, steps) := q.addSteps next steps
    p.addSteps middle steps
  | either p q, next, steps =>
    let (left, steps) := p.addSteps next steps
    let (right, steps) := q.addSteps next steps
    (steps.size, steps.push (.fork left right))
  | repeated p least none, next, steps =>
    let loop := steps.size
    let (first, steps) := p.addSteps loop (steps.push .found)
    prepend least p.addSteps loop (steps.set! loop (.fork first next))
  | repeated p least (some most), next, steps =>
    let option (rest : Nat) (steps : SearchSteps) : Nat × SearchSteps :=
      let (first, steps) := p.addSteps rest steps
      (steps.size, steps.push (.fork first next))
    let (first, steps) := prepend (most - least) option next steps
    prepend least p.addSteps first steps

/-- The steps for a pattern, and the number of the first. -/
def steps (p : Pattern) : Nat × SearchSteps := p.addSteps 0 #[.found]

end Pattern

namespace SearchSteps

/-- What is reached at a place of the text without reading on: whether the pattern fits, and the steps
that read a character. -/
structure Reached where
  found : Bool := false
  reading : List (Ranges × Nat) := []

/-- Follows all steps that read nothing. `due` are the steps to be followed, and `seen` those that were
followed before. -/
def reach (steps : SearchSteps) (before after : Option Char) :
    (fuel : Nat) → (due : List Nat) → (seen : Array Bool) → Reached → Reached
  | 0, _, _, r => r
  | _ + 1, [], _, r => r
  | fuel + 1, i :: due, seen, r =>
    if seen.getD i true then reach steps before after fuel due seen r
    else
      let seen := seen.setIfInBounds i true
      match steps[i]? with
      | none => reach steps before after fuel due seen r
      | some .found => reach steps before after fuel due seen { r with found := true }
      | some (.read set next) =>
        reach steps before after fuel due seen { r with reading := (set, next) :: r.reading }
      | some (.edge e next) =>
        let due := if e.holds before after then next :: due else due
        reach steps before after fuel due seen r
      | some (.fork left right) => reach steps before after fuel (left :: right :: due) seen r

/-- What is reached from several steps. -/
def reached (steps : SearchSteps) (before after : Option Char) (due : List Nat) : Reached :=
  reach steps before after (due.length + 2 * steps.size + 1) due (Array.replicate steps.size false) {}

/-- Searches from every place of the text on; `due` are the steps that come next in the searches so
far. -/
def search (steps : SearchSteps) (first : Nat) :
    (before : Option Char) → (due : List Nat) → List Char → Bool
  | before, due, [] => (steps.reached before none (first :: due)).found
  | before, due, c :: rest =>
    let r := steps.reached before (some c) (first :: due)
    r.found || search steps first (some c)
      (r.reading.filterMap fun (set, next) => if set.has c.toNat then some next else none) rest

end SearchSteps

/-- The pattern fits some part of a text. -/
def Pattern.occursIn (p : Pattern) (cs : List Char) : Bool :=
  let (first, steps) := p.steps
  steps.search first none [] cs

end LessonLang
