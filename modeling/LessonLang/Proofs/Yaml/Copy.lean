import Mathlib.Tactic
import LessonLang.Yaml.Record

/-!
Nodes without their aliases.

* `Copies A F n n'` says that `n'` is `n` with every alias in it replaced by a copy of the node it refers to,
  `A` being the nodes with anchors. Lines may differ, and a node that an alias inside it refers to has no
  copy: the aliases in `F` are those that are being replaced.
* `Node.meant` is the node that is meant by a node, which is another one for an alias. It has the form of
  every copy (`Copies.meant`), so keys are the same if the keys that are meant are (`Copies.sameKey_eq`).
* `KeepsKeys A es` says that replacing aliases changes nothing about which keys of a mapping are the same
  and which merge another mapping in.
-/

namespace LessonLang

namespace Yaml

namespace Node

/-- An alias. -/
def isAlias : Node → Bool
  | aliasNode .. => true
  | _ => false

@[simp] lemma isAlias_aliasNode (line : Nat) (name : Text) (number target : Nat) :
    (aliasNode line name number target).isAlias = true := rfl

/-- A sequence. -/
def isSequence : Node → Bool
  | sequence .. => true
  | _ => false

/-- The node that is meant by a node of a document with the anchors `A`. -/
def meant (A : List (Nat × Node)) : Node → Node
  | aliasNode line name number target => (A.lookup target).getD (aliasNode line name number target)
  | n => n

/-- What is no alias means itself. -/
lemma meant_of_isAlias_eq_false {A : List (Nat × Node)} {n : Node} (h : n.isAlias = false) :
    n.meant A = n := by
  cases n with
  | aliasNode => exact absurd h (by simp)
  | _ => rfl

end Node

/-- **A node with every alias replaced** by a copy of the node it refers to. -/
inductive Copies (A : List (Nat × Node)) : List Nat → Node → Node → Prop where
  | scalar {F : List Nat} {line line' : Nat} {tag value : Text} :
      Copies A F (.scalar line tag value) (.scalar line' tag value)
  | sequence {F : List Nat} {line line' : Nat} {tag : Text} {items items' : List Node}
      (hlength : items.length = items'.length) (hitems : ∀ p ∈ items.zip items', Copies A F p.1 p.2) :
      Copies A F (.sequence line tag items) (.sequence line' tag items')
  | mapping {F : List Nat} {line line' : Nat} {tag : Text} {entries entries' : List (Node × Node)}
      (hlength : entries.length = entries'.length)
      (hkeys : ∀ p ∈ entries.zip entries', Copies A F p.1.1 p.2.1)
      (hvalues : ∀ p ∈ entries.zip entries', Copies A F p.1.2 p.2.2) :
      Copies A F (.mapping line tag entries) (.mapping line' tag entries')
  | aliasNode {F : List Nat} {line : Nat} {name : Text} {number target : Nat} {n n' : Node}
      (hnumber : number ∉ F) (hlookup : A.lookup target = some n) (halias : n.isAlias = false)
      (hcopy : Copies A (number :: F) n n') : Copies A F (.aliasNode line name number target) n'

/-- Two entries of which one is a copy of the other. -/
def CopiesEntry (A : List (Nat × Node)) (F : List Nat) (e e' : Node × Node) : Prop :=
  Copies A F e.1 e'.1 ∧ Copies A F e.2 e'.2

namespace Copies

variable {A : List (Nat × Node)} {F G : List Nat} {n n' k k' j j' : Node} {line : Nat} {tag : Text}

/-! ### The form of copies -/

/-- There are no aliases in a copy. -/
lemma isAlias_eq_false (h : Copies A F n n') : n'.isAlias = false := by
  induction h with
  | aliasNode _ _ _ _ ih => exact ih
  | _ => rfl

/-- A copy has the tag of its original. -/
lemma tag_eq (h : Copies A F n n') (halias : n.isAlias = false) : n'.tag = n.tag := by
  cases h with
  | aliasNode => exact absurd halias (by simp)
  | _ => rfl

/-- **What is meant has a copy of its own**, which is the same. -/
lemma meant (h : Copies A F n n') :
    ∃ G, F ⊆ G ∧ (n.meant A).isAlias = false ∧ Copies A G (n.meant A) n' := by
  cases h with
  | aliasNode hnumber hlookup halias hcopy =>
      rw [Node.meant, hlookup]
      exact ⟨_, List.subset_cons_self _ _, halias, hcopy⟩
  | scalar => exact ⟨F, List.Subset.refl F, rfl, .scalar⟩
  | sequence hlength hitems => exact ⟨F, List.Subset.refl F, rfl, .sequence hlength hitems⟩
  | mapping hlength hkeys hvalues => exact ⟨F, List.Subset.refl F, rfl, .mapping hlength hkeys hvalues⟩

/-- A copy of a sequence is a sequence of copies. -/
lemma items {items : List Node} (h : Copies A F (.sequence line tag items) n') :
    ∃ line' items', n' = .sequence line' tag items' ∧ List.Forall₂ (Copies A F) items items' := by
  cases h with
  | sequence hlength hitems =>
      exact ⟨_, _, rfl, List.forall₂_iff_zip.mpr ⟨hlength, fun hp => hitems _ hp⟩⟩

/-- A copy of a mapping is a mapping of copies. -/
lemma entries {entries : List (Node × Node)} (h : Copies A F (.mapping line tag entries) n') :
    ∃ line' entries', n' = .mapping line' tag entries' ∧
      List.Forall₂ (CopiesEntry A F) entries entries' := by
  cases h with
  | mapping hlength hkeys hvalues =>
      exact ⟨_, _, rfl, List.forall₂_iff_zip.mpr ⟨hlength, fun hp => ⟨hkeys _ hp, hvalues _ hp⟩⟩⟩

lemma of_entries {line' : Nat} {entries entries' : List (Node × Node)}
    (h : List.Forall₂ (CopiesEntry A F) entries entries') :
    Copies A F (.mapping line tag entries) (.mapping line' tag entries') := by
  obtain ⟨hlength, hentries⟩ := List.forall₂_iff_zip.mp h
  exact .mapping hlength (fun _ hp => (hentries hp).1) fun _ hp => (hentries hp).2

/-! ### Keys -/

lemma isMergeKey_eq (h : Copies A F k k') :
    MappingType.isMergeKey (k.meant A) = MappingType.isMergeKey k' := by
  obtain ⟨G, -, halias, hmeant⟩ := h.meant
  generalize k.meant A = m at *
  cases hmeant with
  | aliasNode => exact absurd halias (by simp)
  | _ => rfl

lemma isSequence_eq (h : Copies A F k k') : (k.meant A).isSequence = k'.isSequence := by
  obtain ⟨G, -, halias, hmeant⟩ := h.meant
  generalize k.meant A = m at *
  cases hmeant with
  | aliasNode => exact absurd halias (by simp)
  | _ => rfl

/-- Keys are the same if their copies are. -/
lemma sameKey_eq (hk : Copies A F k k') (hj : Copies A G j j') :
    (k.meant A).sameKey (j.meant A) = k'.sameKey j' := by
  obtain ⟨F', -, hk', hk⟩ := hk.meant
  obtain ⟨G', -, hj', hj⟩ := hj.meant
  generalize k.meant A = k₀ at *
  generalize j.meant A = j₀ at *
  cases hk with
  | aliasNode => exact absurd hk' (by simp)
  | _ =>
      cases hj with
      | aliasNode => exact absurd hj' (by simp)
      | _ => rfl

end Copies

/-! ### Mappings -/

namespace Node

/-- No two keys are the same. -/
def Distinct (ks : List Node) : Prop := ks.Pairwise fun k j => k.sameKey j = false

instance (ks : List Node) : Decidable (Distinct ks) := inferInstanceAs (Decidable (ks.Pairwise _))

/-- No key is repeated if all are distinct. -/
lemma repeatedKeys_eq_nil_iff (ks : List Node) : repeatedKeys ks = [] ↔ Distinct ks := by
  induction ks with
  | nil => exact iff_of_true rfl .nil
  | cons k ks ih =>
      rw [repeatedKeys, List.append_eq_nil_iff, List.map_eq_nil_iff, List.filter_eq_nil_iff, ih, Distinct,
        Distinct, List.pairwise_cons]
      simp

end Node

/-- **Replacing aliases keeps the keys of a mapping apart** or together, it makes no key one that merges
another mapping in, and no alias that is merged in stands for a sequence. -/
structure KeepsKeys (A : List (Nat × Node)) (entries : List (Node × Node)) : Prop where
  distinct : Node.Distinct (entries.map (·.1)) ↔ Node.Distinct (entries.map (·.1.meant A))
  merges : ∀ e ∈ entries, MappingType.isMergeKey (e.1.meant A) = MappingType.isMergeKey e.1
  merged : ∀ e ∈ entries, MappingType.isMergeKey e.1 = true → e.2.isAlias = true →
    (e.2.meant A).isSequence = false

lemma keepsKeys_iff {A : List (Nat × Node)} {entries : List (Node × Node)} : KeepsKeys A entries ↔
    (Node.Distinct (entries.map (·.1)) ↔ Node.Distinct (entries.map (·.1.meant A)))
      ∧ (∀ e ∈ entries, MappingType.isMergeKey (e.1.meant A) = MappingType.isMergeKey e.1)
      ∧ ∀ e ∈ entries, MappingType.isMergeKey e.1 = true → e.2.isAlias = true →
        (e.2.meant A).isSequence = false :=
  ⟨fun h => ⟨h.distinct, h.merges, h.merged⟩, fun h => ⟨h.1, h.2.1, h.2.2⟩⟩

instance (A : List (Nat × Node)) (entries : List (Node × Node)) : Decidable (KeepsKeys A entries) :=
  decidable_of_iff' _ keepsKeys_iff

lemma forall_mem_iff_of_forall₂ {α β : Type} {S : α → β → Prop} {P : α → Prop} {Q : β → Prop} {l : List α}
    {l' : List β} (h : List.Forall₂ S l l') (hS : ∀ a b, S a b → (P a ↔ Q b)) :
    (∀ a ∈ l, P a) ↔ ∀ b ∈ l', Q b := by
  induction h with
  | nil => simp
  | cons hab _ ih => rw [List.forall_mem_cons, List.forall_mem_cons, hS _ _ hab, ih]

lemma pairwise_iff_of_forall₂ {α β : Type} {S : α → β → Prop} {R : α → α → Prop} {R' : β → β → Prop}
    {l : List α} {l' : List β} (h : List.Forall₂ S l l')
    (hS : ∀ a a' b b', S a a' → S b b' → (R a b ↔ R' a' b')) : l.Pairwise R ↔ l'.Pairwise R' := by
  induction h with
  | nil => simp
  | cons hab htail ih =>
      rw [List.pairwise_cons, List.pairwise_cons, ih,
        forall_mem_iff_of_forall₂ htail fun b b' hb => hS _ _ b b' hab hb]

namespace KeepsKeys

variable {A : List (Nat × Node)} {F : List Nat} {entries entries' : List (Node × Node)}

/-- The keys of a mapping are distinct if those of its copy are. -/
lemma distinct_iff (h : KeepsKeys A entries) (hes : List.Forall₂ (CopiesEntry A F) entries entries') :
    Node.Distinct (entries.map (·.1)) ↔ Node.Distinct (entries'.map (·.1)) := by
  refine h.distinct.trans ?_
  rw [Node.Distinct, Node.Distinct, List.pairwise_map, List.pairwise_map]
  exact pairwise_iff_of_forall₂ hes fun d d' e e' hd he => by rw [hd.1.sameKey_eq he.1]

end KeepsKeys

end Yaml

end LessonLang
