import Mathlib.Tactic
import LessonLang.Json
import LessonLang.Proofs.Decimal.Bits

/-!
Which JSON documents have a text.

* `Json.infinite` lists the numbers in a document that are not finite. The first one is why a document has
  no text (`Json.unsupported?_eq_head?`), and a document without such a number has one
  (`Json.exists_encode_iff`).
-/

namespace LessonLang

namespace Json

mutual

/-- The numbers in a document that are not finite. -/
def infinite : Json → List Float
  | number x => if x.isFinite then [] else [x]
  | array items => infiniteItems items
  | object fields => infiniteFields fields
  | _ => []

/-- The numbers in a list of documents that are not finite. -/
def infiniteItems : List Json → List Float
  | [] => []
  | j :: rest => infinite j ++ infiniteItems rest

/-- The numbers in a list of fields that are not finite. -/
def infiniteFields : List (String × Json) → List Float
  | [] => []
  | (_, j) :: rest => infinite j ++ infiniteFields rest

end

lemma infiniteItems_eq_nil_iff {items : List Json} :
    infiniteItems items = [] ↔ ∀ j ∈ items, j.infinite = [] := by
  induction items with
  | nil => simp [infiniteItems]
  | cons j items ih => simp [infiniteItems, ih]

lemma infiniteFields_eq_nil_iff {fields : List (String × Json)} :
    infiniteFields fields = [] ↔ ∀ f ∈ fields, f.2.infinite = [] := by
  induction fields with
  | nil => simp [infiniteFields]
  | cons f fields ih => simp [infiniteFields, ih]

mutual

/-- **What keeps a document from being written** is the first number in it that is not finite. -/
lemma unsupported?_eq_head? : ∀ j : Json, j.unsupported? = j.infinite.head?
  | .null | .bool _ | .int _ | .string _ => rfl
  | .number x => by
    rw [unsupported?, infinite]
    simp only [← isFinite_iff_splitSign]
    cases x.isFinite <;> rfl
  | .array items => unsupportedItem?_eq_head? items
  | .object fields => unsupportedField?_eq_head? fields

lemma unsupportedItem?_eq_head? : ∀ items, unsupportedItem? items = (infiniteItems items).head?
  | [] => rfl
  | j :: rest => by
    rw [unsupportedItem?, infiniteItems, unsupported?_eq_head? j, unsupportedItem?_eq_head? rest,
      List.head?_append]

lemma unsupportedField?_eq_head? : ∀ fields, unsupportedField? fields = (infiniteFields fields).head?
  | [] => rfl
  | (_, j) :: rest => by
    rw [unsupportedField?, infiniteFields, unsupported?_eq_head? j, unsupportedField?_eq_head? rest,
      List.head?_append]

end

/-- **The documents with a text** are those whose numbers are all finite. -/
lemma exists_encode_iff {step : Option Nat} {j : Json} :
    (∃ doc, j.encode step = .ok doc) ↔ j.infinite = [] := by
  rw [encode, unsupported?_eq_head?]
  cases j.infinite <;> simp

lemma head?_of_encode {step : Option Nat} {j : Json} {x : Float} (h : j.encode step = .error x) :
    j.infinite.head? = some x := by
  rw [encode, unsupported?_eq_head?] at h
  cases hj : j.infinite with
  | nil => simp [hj] at h
  | cons y ys => simpa [hj] using h

@[simp] lemma infinite_null : null.infinite = [] := rfl

@[simp] lemma infinite_bool (b : Bool) : (bool b).infinite = [] := rfl

@[simp] lemma infinite_string (t : Text) : (string t).infinite = [] := rfl

@[simp] lemma infinite_array (items : List Json) : (array items).infinite = infiniteItems items := rfl

end Json

end LessonLang
