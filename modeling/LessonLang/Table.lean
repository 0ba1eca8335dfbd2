import LessonLang.Text

/-!
Finite maps.

* `Table α` maps names to values of `α`, and `Table α κ` does so for keys of any ordered type. It is a
  list of bindings in increasing order of their keys, with one binding a key, so that two tables with
  the same bindings are equal.
* `Table.get?` looks a key up, `Table.set` adds or replaces a binding.
-/

namespace LessonLang

/-- A finite map, as its bindings in the order of the keys. -/
abbrev Table (α : Type) (κ : Type := Text) := List (κ × α)

namespace Table

variable {α κ : Type} [BEq κ] [LT κ] [DecidableLT κ]

/-- The value bound to a key. -/
def get? (t : Table α κ) (key : κ) : Option α := List.lookup key t

/-- Binds a key to a value, whether or not it was bound before. -/
def set (key : κ) (value : α) : Table α κ → Table α κ
  | [] => [(key, value)]
  | (k, v) :: rest =>
    if key == k then (key, value) :: rest
    else if key < k then (key, value) :: (k, v) :: rest
    else (k, v) :: set key value rest

/-- The table with the given bindings; of two for one key the later counts. -/
def ofList (bindings : List (κ × α)) : Table α κ :=
  bindings.foldl (fun t b => set b.1 b.2 t) []

/-- The bound keys, in increasing order. -/
def keys (t : Table α κ) : List κ := t.map (·.1)

/-- A key is bound. -/
def has (t : Table α κ) (key : κ) : Bool := (get? t key).isSome

end Table

end LessonLang
