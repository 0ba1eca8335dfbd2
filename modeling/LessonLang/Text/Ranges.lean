/-!
Sets of code points as ranges.

* A set is a list of closed ranges. `Ranges.normalize` puts any list into its one normal form:
  increasing, with a gap between any two ranges.
* `Ranges.complement` is the set of all other code points, and `Ranges.ofRuns` spells out runs of code
  points at equal distances.
* `inRanges` looks a code point up in a table of ranges by halving it.
-/

namespace LessonLang

/-! ### Tables -/

/-- Searches the ranges with indices from `lo` up to `hi` for the one that holds `cp`; each round
halves the part of the table that is left. -/
def searchRanges (table : Array (Nat × Nat)) (cp : Nat) : (rounds lo hi : Nat) → Bool
  | 0, _, _ => false
  | rounds + 1, lo, hi =>
    if lo < hi then
      let mid := (lo + hi) / 2
      match table[mid]? with
      | none => false
      | some r =>
        if cp < r.1 then searchRanges table cp rounds lo mid
        else if r.2 < cp then searchRanges table cp rounds (mid + 1) hi
        else true
    else false

/-- The code point lies in one of the ranges of a table. -/
def inRanges (table : Array (Nat × Nat)) (cp : Nat) : Bool :=
  searchRanges table cp table.size 0 table.size

/-! ### Sets -/

/-- A set of code points, as closed ranges. -/
abbrev Ranges := List (Nat × Nat)

namespace Ranges

/-- The greatest code point. -/
def greatest : Nat := 0x10ffff

/-- The code point is in the set. -/
def has (s : Ranges) (cp : Nat) : Bool := s.any fun r => r.1 ≤ cp && cp ≤ r.2

/-- Extends the range `r` by those of the sorted list that it touches, and goes on with the next. -/
def absorb (r : Nat × Nat) : Ranges → Ranges
  | [] => [r]
  | next :: rest =>
    if next.1 ≤ r.2 + 1 then absorb (r.1, max r.2 next.2) rest else r :: absorb next rest

/-- The same set as few ranges in increasing order. -/
def normalize (s : Ranges) : Ranges :=
  match s.mergeSort fun a b => a.1 ≤ b.1 with
  | [] => []
  | r :: rest => absorb r rest

/-- What a set in normal form leaves out from `start` on. -/
def gapsFrom (start : Nat) : Ranges → Ranges
  | [] => if start ≤ greatest then [(start, greatest)] else []
  | r :: rest =>
    let after := gapsFrom (r.2 + 1) rest
    if start < r.1 then (start, r.1 - 1) :: after else after

/-- The code points that are not in a set in normal form. -/
def complement (s : Ranges) : Ranges := gapsFrom 0 s

/-- The code points of runs `(least, greatest, step)`. -/
def ofRuns (runs : List (Nat × Nat × Nat)) : Ranges :=
  runs.flatMap fun (lo, hi, step) =>
    if step ≤ 1 then [(lo, hi)]
    else (List.range ((hi - lo) / step + 1)).map fun i => (lo + i * step, lo + i * step)

end Ranges

end LessonLang
