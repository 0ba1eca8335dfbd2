import Mathlib.Tactic
import LessonLang.Scopes

/-!
Facts about tables and scopes.

* `Table.get?_set` is what binding a name does to lookups.
* `Table.rebind` adds bindings to a table, and `Table.get?_rebind` says that they hide the others.
* `Table.image` changes the values and keeps the keys.
* `Table.All` says that all bound values have a property; binding keeps it.
* `Table.Sorted` says that the keys are in increasing order; binding keeps that too.
* `Scopes.lookup?_push` and `Scopes.lookup?_define` say the same of lookups through all scopes.
-/

namespace LessonLang

/-! ### Tables -/

namespace Table

variable {α κ : Type}

/-- A table with another value for each key. -/
def image {β : Type} (f : α → β) (t : Table α κ) : Table β κ := t.map (Prod.map id f)

lemma image_cons {β : Type} (f : α → β) (b : κ × α) (t : Table α κ) :
    image f (b :: t) = (b.1, f b.2) :: image f t := rfl

variable [BEq κ]

/-- The first binding counts. -/
lemma get?_cons (k key : κ) (v : α) (t : Table α κ) :
    Table.get? ((k, v) :: t) key = if key == k then some v else t.get? key := by
  rw [get?, List.lookup_cons]
  cases key == k <;> rfl

/-- What stands in an image is the image of what stands in the table. -/
lemma get?_image {β : Type} (f : α → β) (t : Table α κ) (key : κ) :
    (t.image f).get? key = (t.get? key).map f := by
  induction t with
  | nil => rfl
  | cons b rest ih =>
      rw [image_cons, get?_cons, get?_cons, ih]
      split_ifs <;> rfl

/-- All bound values have the property `P`. -/
def All (P : α → Prop) (t : Table α κ) : Prop := ∀ b ∈ t, P b.2

variable {P : α → Prop} {t : Table α κ}

/-- What holds of all values holds of the one that is found. -/
lemma All.get? [LawfulBEq κ] (h : t.All P) {key : κ} {value : α}
    (hv : t.get? key = some value) : P value := by
  obtain ⟨before, after, rfl, -⟩ := List.lookup_eq_some_iff.mp hv
  exact h (key, value) (by simp)

variable [LT κ] [DecidableLT κ]

/-- Binding a key changes what is found for that key only. -/
lemma get?_set [LawfulBEq κ] (t : Table α κ) (key key' : κ) (value : α) :
    (t.set key value).get? key' = if key' == key then some value else t.get? key' := by
  induction t with
  | nil => rw [set, get?_cons]
  | cons b rest ih =>
      obtain ⟨k, v⟩ := b
      rw [set]
      by_cases hk : key == k
      · obtain rfl := eq_of_beq hk
        rw [if_pos hk, get?_cons, get?_cons]
        split_ifs <;> rfl
      rw [if_neg hk]
      by_cases hlt : key < k
      · rw [if_pos hlt, get?_cons]
      · rw [if_neg hlt, get?_cons, get?_cons, ih]
        by_cases hkey : key' == key
        · obtain rfl := eq_of_beq hkey
          rw [if_neg hk, if_pos hkey, if_pos hkey]
        · rw [if_neg hkey, if_neg hkey]

/-- It goes on to hold when a value of which it holds is set. -/
lemma All.set (h : t.All P) (key : κ) {value : α} (hv : P value) : (t.set key value).All P := by
  induction t with
  | nil =>
      intro b hb
      obtain rfl := List.mem_singleton.mp hb
      exact hv
  | cons b rest ih =>
      obtain ⟨hb, hrest⟩ := List.forall_mem_cons.mp h
      rw [Table.set]
      split_ifs
      · exact List.forall_mem_cons.mpr ⟨hv, hrest⟩
      · exact List.forall_mem_cons.mpr ⟨hv, h⟩
      · exact List.forall_mem_cons.mpr ⟨hb, ih hrest⟩

/-- A table that is put together from bindings has only their values. -/
lemma All.ofList {bindings : List (κ × α)} (h : ∀ b ∈ bindings, P b.2) :
    (ofList bindings).All P := by
  suffices hfold : ∀ t : Table α κ, t.All P →
      (bindings.foldl (fun t b => Table.set b.1 b.2 t) t).All P from hfold [] (by simp [All])
  induction bindings with
  | nil => exact fun t ht => ht
  | cons b rest ih =>
      obtain ⟨hb, hrest⟩ := List.forall_mem_cons.mp h
      exact fun t ht => ih hrest _ (ht.set b.1 hb)

/-- To set an image is to take the image of what is set. -/
lemma set_image {β : Type} (f : α → β) (t : Table α κ) (key : κ) (value : α) :
    (t.image f).set key (f value) = (t.set key value).image f := by
  induction t with
  | nil => rfl
  | cons b rest ih =>
      rw [image_cons, set, set, ih]
      split_ifs <;> rfl

/-- A table with further bindings: names are bound anew or bound to something else, in order. -/
def rebind (t : Table α κ) (bs : List (κ × α)) : Table α κ :=
  bs.foldl (fun t b => t.set b.1 b.2) t

/-- Further bindings hide what is bound already. -/
lemma get?_rebind [LawfulBEq κ] (t : Table α κ) (bs : List (κ × α)) (key : κ) :
    (t.rebind bs).get? key = ((ofList bs).get? key).or (t.get? key) := by
  -- the table of the bindings alone grows in step with the one that they are added to
  suffices hfold : ∀ t₁ t₂ : Table α κ, (∀ k, t₂.get? k = (t₁.get? k).or (t.get? k)) →
      (t₂.rebind bs).get? key = ((t₁.rebind bs).get? key).or (t.get? key) from
    hfold [] t (by simp [get?])
  induction bs with
  | nil => exact fun t₁ t₂ h => h key
  | cons b bs ih =>
      intro t₁ t₂ h
      refine ih _ _ fun k => ?_
      rw [get?_set, get?_set]
      split_ifs
      · rfl
      · exact h k

/-! The keys -/

section

variable {t : Table α}

/-- The keys are in increasing order. -/
def Sorted (t : Table α) : Prop := t.keys.Pairwise (· < ·)

/-- A table has the keys that it lists. -/
lemma has_iff_mem_keys {key : Text} : t.has key = true ↔ key ∈ t.keys := by
  rw [has, get?, List.lookup_isSome_iff, keys, List.mem_map]
  exact exists_congr fun b => and_congr_right fun _ => beq_iff_eq.trans eq_comm

lemma keys_cons (b : Text × α) (t : Table α) : keys (b :: t) = b.1 :: keys t := rfl

/-- To set a value adds its key. -/
lemma mem_keys_set (t : Table α) (key key' : Text) (value : α) :
    key' ∈ (t.set key value).keys ↔ key' = key ∨ key' ∈ t.keys := by
  induction t with
  | nil => simp [set, keys]
  | cons b rest ih =>
      rw [set, keys_cons, List.mem_cons]
      split_ifs with hkey
      · obtain rfl := eq_of_beq hkey
        rw [keys_cons, List.mem_cons, ← or_assoc, or_self]
      · rw [keys_cons, List.mem_cons, keys_cons, List.mem_cons]
      · rw [keys_cons, List.mem_cons, ih]
        exact or_left_comm

/-- A sorted table stays so. -/
lemma Sorted.set (h : t.Sorted) (key : Text) (value : α) : (t.set key value).Sorted := by
  induction t with
  | nil => simp [Sorted, Table.set, keys]
  | cons b rest ih =>
      obtain ⟨hfirst, hrest⟩ := List.pairwise_cons.mp h
      rw [Table.set]
      split_ifs with hkey hlt
      · obtain rfl := eq_of_beq hkey
        exact h
      · refine List.pairwise_cons.mpr ⟨fun k hk => ?_, h⟩
        obtain rfl | hk := List.mem_cons.mp hk
        · exact hlt
        · exact List.lt_trans hlt (hfirst k hk)
      · have hle : b.1 ≤ key := List.not_lt.mp hlt
        have hb : b.1 < key := by
          by_contra hge
          exact hkey (beq_iff_eq.mpr (List.le_antisymm (List.not_lt.mp hge) hle))
        refine List.pairwise_cons.mpr ⟨fun k hk => ?_, ih hrest⟩
        obtain rfl | hk := (mem_keys_set rest key k value).mp hk
        · exact hb
        · exact hfirst k hk

lemma sorted_ofList (bindings : List (Text × α)) : (ofList bindings).Sorted :=
  List.foldlRecOn bindings _ List.Pairwise.nil fun _ ht b _ => ht.set b.1 b.2

end

end Table

/-! ### Scopes -/

namespace Scopes

/-- The tables of all scopes, from the inside out. -/
def tables (s : Scopes) : List (Table Value) := s.inner :: s.outer

/-- A name is found in the innermost scope or else in those around it. -/
lemma lookup?_push (s : Scopes) (t : Table Value) (name : Text) :
    (s.push t).lookup? name = (t.get? name).or (s.lookup? name) := by
  rw [lookup?, push, List.findSome?_cons]
  cases t.get? name <;> rfl

/-- A name that is defined is found, and hides no other. -/
lemma lookup?_define (s : Scopes) (name name' : Text) (v : Value) :
    (s.define name v).lookup? name' = if name' == name then some v else s.lookup? name' := by
  simp only [lookup?, define, List.findSome?_cons, Table.get?_set]
  cases name' == name <;> rfl

/-- All bound values have the property `P`. -/
def All (P : Value → Prop) (s : Scopes) : Prop := ∀ t ∈ s.tables, t.All P

variable {P : Value → Prop} {s : Scopes}

lemma All.lookup? (h : s.All P) {name : Text} {v : Value} (hv : s.lookup? name = some v) : P v := by
  obtain ⟨t, ht, hv⟩ := List.exists_of_findSome?_eq_some hv
  exact (h t ht).get? hv

/-- What holds of all values holds of them in a new scope, if it holds of those in it. -/
lemma All.push (h : s.All P) {t : Table Value} (ht : t.All P) : (s.push t).All P :=
  List.forall_mem_cons.mpr ⟨ht, h⟩

/-- It goes on to hold when a scope is closed. -/
lemma All.pop? (h : s.All P) {s' : Scopes} (hs : s.pop? = some s') : s'.All P := by
  rw [Scopes.pop?] at hs
  split at hs
  · exact absurd hs (by simp)
  · obtain rfl := Option.some.inj hs
    intro t ht
    exact h t (by simp_all [tables])

lemma All.define (h : s.All P) (name : Text) {v : Value} (hv : P v) : (s.define name v).All P := by
  obtain ⟨hinner, houter⟩ := List.forall_mem_cons.mp h
  exact List.forall_mem_cons.mpr ⟨hinner.set name hv, houter⟩

end Scopes

end LessonLang
