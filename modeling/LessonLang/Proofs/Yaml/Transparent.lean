import LessonLang.Proofs.Yaml.Alike

/-!
Mappings whose aliases are transparent.

* `MappingType.Transparent A r Q` says that a mapping type reads alike what it reads on its own, from nodes
  with the property `Q` and from their copies, and that such nodes keep their keys where aliases are
  replaced.
* `MappingType.Transparent.read`: then a node with the property is read like its copy, with all that is
  merged into it.
* `Document.decode_copied`: a document whose aliases are replaced is read as before.
-/

namespace LessonLang

namespace Yaml

open Decoder

variable {σ : Type} {A : List (Nat × Node)} {F : List Nat}

lemma forall₂_mem_left {α β : Type} {R : α → β → Prop} {l : List α} {l' : List β}
    (h : List.Forall₂ R l l') : List.Forall₂ (fun a b => a ∈ l ∧ R a b) l l' := by
  induction h with
  | nil => exact .nil
  | cons hab _ ih =>
      exact .cons ⟨List.mem_cons_self, hab⟩ (ih.imp fun _ _ h => ⟨List.mem_cons_of_mem _ h.1, h.2⟩)

lemma find?_of_forall₂ {α β : Type} {R : α → β → Prop} {p : α → Bool} {q : β → Bool} {l : List α}
    {l' : List β} (h : List.Forall₂ R l l') (hpq : ∀ a b, R a b → p a = q b) :
    l.find? p = none ∧ l'.find? q = none ∨
      ∃ a b, l.find? p = some a ∧ l'.find? q = some b ∧ R a b := by
  induction h with
  | nil => exact .inl ⟨rfl, rfl⟩
  | cons hab _ ih =>
      rename_i a b l l' _
      rw [List.find?_cons, List.find?_cons, ← hpq a b hab]
      cases p a with
      | true => exact .inr ⟨a, b, rfl, rfl, hab⟩
      | false => exact ih

namespace MappingType

/-- Nodes with this tag are read entry by entry. -/
def ByEntries (r : MappingType σ) (tag : Text) : Prop := r.own = none ∨ tag = Tag.null

/-- **A mapping type to which aliases are transparent**, in nodes with the property `Q`. -/
structure Transparent (A : List (Nat × Node)) (r : MappingType σ) (Q : Node → Prop) : Prop where
  meant : ∀ {n}, Q n → Q (n.meant A)
  own : ∀ {read}, r.own = some read → ∀ {F n n'}, Q n → n.isAlias = false → n.tag ≠ Tag.null →
    Copies A F n n' → ∀ v, Alike A F Eq (read n v) (read n' v)
  keys : ∀ {line tag entries}, Q (.mapping line tag entries) → r.ByEntries tag → KeepsKeys A entries
  merged : ∀ {line tag entries}, Q (.mapping line tag entries) → r.ByEntries tag → ∀ e ∈ entries,
    isMergeKey e.1 = true → ∀ m ∈ mergedNodes e.2, Q m
  entry : ∀ {line tag entries}, Q (.mapping line tag entries) → r.ByEntries tag → ∀ e ∈ entries,
    isMergeKey e.1 = false → ∀ key, (e.1.meant A).text? = some key → ∀ {F n'}, Copies A F e.2 n' →
    ∀ done l l' v, Alike A F Eq (r.entry done l key e.2 v) (r.entry done l' key n' v)

variable {r : MappingType σ} {Q : Node → Prop} {n n' : Node} {line : Nat} {tag : Text}
  {entries entries' : List (Node × Node)}

/-! ### Entries -/

lemma Transparent.isMergeKey_eq (h : r.Transparent A Q) (hn : Q (.mapping line tag entries))
    (htag : r.ByEntries tag) {e e' : Node × Node} (he : e ∈ entries) (hcopy : CopiesEntry A F e e') :
    isMergeKey e.1 = isMergeKey e'.1 := by
  rw [← hcopy.1.isMergeKey_eq, (h.keys hn htag).merges e he]

lemma Transparent.readEntry (h : r.Transparent A Q) (hn : Q (.mapping line tag entries))
    (htag : r.ByEntries tag) {e e' : Node × Node} (he : e ∈ entries) (hcopy : CopiesEntry A F e e')
    (s : State σ) : Alike A F Eq (r.readEntry s e) (r.readEntry s e') := by
  have hmerge := h.isMergeKey_eq hn htag he hcopy
  rw [MappingType.readEntry, MappingType.readEntry, ← hmerge]
  cases hkey : isMergeKey e.1 with
  | true => exact alike_pure rfl
  | false =>
      refine (alike_text hcopy.1).bind ?_
      rintro t _ ⟨rfl, htext⟩
      cases t with
      | none => exact alike_pure rfl
      | some key =>
          dsimp only
          split_ifs
          · exact alike_pure rfl
          · exact (h.entry hn htag e he hkey key (htext key rfl) hcopy.2 _ _ _ _).bind_pure

lemma alike_textKeys (hes : List.Forall₂ (CopiesEntry A F) entries entries') :
    Alike A F Eq (textKeys entries) (textKeys entries') := by
  refine (alike_mapM hes fun e e' he => alike_follow he.1 fun G hcopy halias => ?_).bind ?_
  · generalize e.1.meant A = k at *
    generalize e'.1 = k' at *
    cases hcopy with
    | scalar =>
        refine (alike_scalar _ _).bind ?_
        rintro ⟨found, t⟩ _ ⟨rfl, -⟩
        exact alike_pure rfl
    | aliasNode => exact absurd halias (by simp)
    | _ => exact alike_pure rfl
  · rintro keys _ rfl
    exact alike_pure rfl

/-! ### Mappings that are merged in -/

lemma forall₂_mergedNodes (hcopy : Copies A F n n')
    (hsequence : n.isAlias = true → (n.meant A).isSequence = false) :
    List.Forall₂ (Copies A F) (mergedNodes n) (mergedNodes n') := by
  cases n with
  | sequence =>
      obtain ⟨line', items', rfl, hitems⟩ := hcopy.items
      exact hitems
  | scalar =>
      cases hcopy
      exact .cons .scalar .nil
  | mapping =>
      have hcopy' := hcopy
      obtain ⟨line', entries', rfl, -⟩ := hcopy.entries
      exact .cons hcopy' .nil
  | aliasNode =>
      have hform : n'.isSequence = false := by rw [← hcopy.isSequence_eq, hsequence rfl]
      cases n' with
      | sequence => exact absurd hform (by simp [Node.isSequence])
      | _ => exact .cons hcopy .nil

/-- Reads a mapping that is merged in. -/
def readMapping (r : MappingType σ) (depth : Nat) (keys : List Text) (value : σ) :
    Node → Decoder (List Text × σ)
  | .mapping l t es => do
    let (_, keys', value) ← r.readNode depth (some keys) value (.mapping l t es)
    pure (keys'.getD keys, value)
  | _ => .fail .malformed

/-- Reads a node that is merged in: a mapping, or an alias for one. -/
def readMerged (r : MappingType σ) (depth : Nat) (keys : List Text) (value : σ) (m : Node) :
    Decoder (List Text × σ) :=
  match m with
  | .scalar .. | .sequence .. => .fail .malformed
  | m => Decoder.follow m (r.readMapping depth keys value)

/-- A fault that comes of what is meant comes of an alias. -/
lemma alike_follow_fail {α β : Type} {R : α → β → Prop} {read : Node → Decoder α} {f : Fault}
    (hcopy : Copies A F n n') (hread : read (n.meant A) = Decoder.fail f) :
    Alike A F R (follow n read) (Decoder.fail f) := by
  have hfollow : Alike A F R (follow n read) (follow n' fun _ => Decoder.fail f) :=
    alike_follow hcopy fun G _ _ => by
      rw [hread]
      exact alike_fail rfl
  intro s s' hs
  have hrun : (follow n' fun _ => (Decoder.fail f : Decoder β)).run s' = .error f := by
    rw [follow_of_isAlias_eq_false hcopy.isAlias_eq_false, run_bind_ok hs.run_visit.2]
    rfl
  obtain ⟨a, b, t, t', -, hok, -, -⟩ | ⟨e, e', he, he', hkind⟩ := hfollow s s' hs
  · exact absurd (hrun.symm.trans hok) (by simp)
  · obtain rfl := Except.error.inj (hrun.symm.trans he')
    exact .inr ⟨e, f, he, rfl, hkind⟩

/-- Copies are read alike, with at most so many mappings merged into each other. -/
def ReadsAlike (A : List (Nat × Node)) (r : MappingType σ) (Q : Node → Prop) (depth : Nat) : Prop :=
  ∀ nearer v {F n n'}, Q n → n.isAlias = false → Copies A F n n' →
    Alike A F Eq (r.readNode depth nearer v n) (r.readNode depth nearer v n')

lemma ReadsAlike.readMapping {depth : Nat} (h : ReadsAlike A r Q depth) (hn : Q n)
    (halias : n.isAlias = false) (hcopy : Copies A F n n') (keys : List Text) (v : σ) :
    Alike A F Eq (r.readMapping depth keys v n) (r.readMapping depth keys v n') := by
  cases n with
  | mapping =>
      have hread := h (some keys) v hn halias hcopy
      obtain ⟨line', entries', rfl, -⟩ := hcopy.entries
      refine hread.bind ?_
      rintro ⟨good, keys', w⟩ _ rfl
      exact alike_pure rfl
  | scalar =>
      cases hcopy
      exact alike_fail rfl
  | sequence =>
      obtain ⟨line', items', rfl, -⟩ := hcopy.items
      exact alike_fail rfl
  | aliasNode => exact absurd halias (by simp)

lemma readMapping_meant {depth : Nat} {keys : List Text} {v : σ} (hcopy : Copies A F n n')
    (hform : ∀ line tag entries, n' ≠ .mapping line tag entries) :
    r.readMapping depth keys v (n.meant A) = .fail .malformed := by
  obtain ⟨G, -, halias, hmeant⟩ := hcopy.meant
  generalize n.meant A = m at *
  cases hmeant with
  | aliasNode => exact absurd halias (by simp)
  | mapping => exact absurd rfl (hform _ _ _)
  | _ => rfl

/-- What is merged in is a mapping, or an alias for one. All else is a fault, before an alias is followed or
after it. -/
lemma ReadsAlike.readMerged {depth : Nat} (h : ReadsAlike A r Q depth) (hmeant : Q (n.meant A))
    (hcopy : Copies A F n n') (keys : List Text) (v : σ) :
    Alike A F Eq (r.readMerged depth keys v n) (r.readMerged depth keys v n') := by
  have hfollow : Alike A F Eq (follow n (r.readMapping depth keys v))
      (follow n' (r.readMapping depth keys v)) :=
    alike_follow hcopy fun G hcopy halias => h.readMapping hmeant halias hcopy keys v
  cases n with
  | scalar =>
      cases hcopy
      exact alike_fail rfl
  | sequence =>
      obtain ⟨line', items', rfl, -⟩ := hcopy.items
      exact alike_fail rfl
  | mapping =>
      obtain ⟨line', entries', rfl, -⟩ := hcopy.entries
      exact hfollow
  | aliasNode =>
      cases n' with
      | scalar => exact alike_follow_fail hcopy (readMapping_meant hcopy (by simp))
      | sequence => exact alike_follow_fail hcopy (readMapping_meant hcopy (by simp))
      | mapping => exact hfollow
      | aliasNode => exact absurd hcopy.isAlias_eq_false (by simp)

/-! ### Nodes -/

/-- The keys of a mapping that others are merged into: they are known if it is merged in itself. -/
def knownKeys (entries : List (Node × Node)) : Option (List Text) → Decoder (List Text)
  | some keys => pure keys
  | none => textKeys entries

/-- Reads what is merged into a mapping behind its own entries. -/
def readMerges (r : MappingType σ) (depth : Nat) (entries : List (Node × Node)) (s : State σ) :
    Decoder (Bool × Option (List Text) × σ) :=
  match entries.find? (isMergeKey ·.1) with
  | none => pure (true, s.nearer, s.value)
  | some e => do
    let keys ← knownKeys entries s.nearer
    let p ← (mergedNodes e.2).foldlM (fun p m => r.readMerged depth p.1 p.2 m) (keys, s.value)
    pure (true, s.nearer.map fun _ => p.1, p.2)

section

variable {depth : Nat} {nearer : Option (List Text)} {v : σ}

lemma readNode_own {own : Node → σ → Decoder σ} (hown : r.own = some own) (htag : n.tag ≠ Tag.null) :
    r.readNode (depth + 1) nearer v n = own n v >>= fun w => pure (true, nearer, w) := by
  unfold MappingType.readNode
  rw [if_neg (by simpa using htag), hown]

lemma own_of_byEntries (h : r.ByEntries tag) : (if tag == Tag.null then none else r.own) = none := by
  rcases h with h | rfl
  · simp [h]
  · simp

lemma readNode_scalar {value : Text} (h : r.ByEntries tag) :
    r.readNode (depth + 1) nearer v (.scalar line tag value) = (do
      let (found, _) ← Decoder.scalar tag value
      if found == Tag.null then pure ((r.null v).isSome, nearer, (r.null v).getD v)
      else
        Decoder.mismatch (.scalar line tag value) r.name
        pure (false, nearer, v)) := by
  unfold MappingType.readNode
  rw [show (Node.scalar line tag value).tag = tag from rfl, own_of_byEntries h]

lemma readNode_sequence {items : List Node} (h : r.ByEntries tag) :
    r.readNode (depth + 1) nearer v (.sequence line tag items) = (do
      Decoder.mismatch (.sequence line tag items) r.name
      pure (false, nearer, v)) := by
  unfold MappingType.readNode
  rw [show (Node.sequence line tag items).tag = tag from rfl, own_of_byEntries h]

lemma readNode_mapping (h : r.ByEntries tag) :
    r.readNode (depth + 1) nearer v (.mapping line tag entries) = (do
      if ← Decoder.distinctKeys entries then
        let s ← entries.foldlM r.readEntry { value := v, nearer }
        r.readMerges depth entries s
      else pure (false, nearer, v)) := by
  unfold MappingType.readNode
  rw [show (Node.mapping line tag entries).tag = tag from rfl, own_of_byEntries h]
  refine congrArg (Decoder.distinctKeys entries >>= ·) (funext fun distinct => ?_)
  split_ifs
  · refine congrArg (entries.foldlM r.readEntry _ >>= ·) (funext fun s => ?_)
    rw [readMerges]
    cases entries.find? (isMergeKey ·.1) with
    | none => rfl
    | some e => cases s.nearer <;> rfl
  · rfl

end

lemma Transparent.readMerges {depth : Nat} (ih : ReadsAlike A r Q depth) (h : r.Transparent A Q)
    (hn : Q (.mapping line tag entries)) (htag : r.ByEntries tag)
    (hes : List.Forall₂ (CopiesEntry A F) entries entries') (s : State σ) :
    Alike A F Eq (r.readMerges depth entries s) (r.readMerges depth entries' s) := by
  have hmerge := find?_of_forall₂ (p := fun e => isMergeKey e.1) (q := fun e => isMergeKey e.1)
    (forall₂_mem_left hes) fun e e' he => h.isMergeKey_eq hn htag he.1 he.2
  rw [MappingType.readMerges, MappingType.readMerges]
  obtain ⟨hfind, hfind'⟩ | ⟨e, e', hfind, hfind', he, hcopy⟩ := hmerge
  · rw [hfind, hfind']
    exact alike_pure rfl
  · rw [hfind, hfind']
    have hkey : isMergeKey e.1 = true := by simpa using List.find?_some hfind
    have hmerged := forall₂_mem_left (forall₂_mergedNodes hcopy.2 ((h.keys hn htag).merged e he hkey))
    dsimp only
    have hkeys : Alike A F Eq (knownKeys entries s.nearer) (knownKeys entries' s.nearer) := by
      cases s.nearer with
      | some keys => exact alike_pure rfl
      | none => exact alike_textKeys hes
    refine hkeys.bind ?_
    rintro keys _ rfl
    refine (alike_foldlM hmerged (fun p m m' hm => ?_) _).bind ?_
    · exact ih.readMerged (h.meant (h.merged hn htag e he hkey m hm.1)) hm.2 p.1 p.2
    · rintro p _ rfl
      exact alike_pure rfl

lemma Transparent.readsAlike (h : r.Transparent A Q) (depth : Nat) : ReadsAlike A r Q depth := by
  induction depth with
  | zero => exact fun _ _ _ _ _ _ _ _ => alike_fail rfl
  | succ depth ih =>
      intro nearer v F n n' hn halias hcopy
      have htag : n'.tag = n.tag := hcopy.tag_eq halias
      by_cases hown : r.ByEntries n.tag
      · cases n with
        | scalar line tag value =>
            cases hcopy
            have hown : r.ByEntries tag := hown
            rw [readNode_scalar hown, readNode_scalar hown]
            refine (alike_scalar _ _).bind ?_
            rintro ⟨found, t⟩ _ ⟨rfl, -⟩
            dsimp only
            split_ifs
            · exact alike_pure rfl
            · exact (alike_mismatch _ _ _ _).bind fun _ _ _ => alike_pure rfl
        | sequence line tag items =>
            obtain ⟨line', items', rfl, -⟩ := hcopy.items
            have hown : r.ByEntries tag := hown
            rw [readNode_sequence hown, readNode_sequence hown]
            exact (alike_mismatch _ _ _ _).bind fun _ _ _ => alike_pure rfl
        | mapping line tag entries =>
            obtain ⟨line', entries', rfl, hes⟩ := hcopy.entries
            have hown : r.ByEntries tag := hown
            rw [readNode_mapping hown, readNode_mapping hown]
            refine (alike_distinctKeys ((h.keys hn hown).distinct_iff hes)).bind ?_
            rintro distinct _ rfl
            split_ifs
            · refine (alike_foldlM (forall₂_mem_left hes) (fun s e e' he => ?_) _).bind ?_
              · exact h.readEntry hn hown he.1 he.2 s
              · rintro s _ rfl
                exact h.readMerges ih hn hown hes s
            · exact alike_pure rfl
        | aliasNode => exact absurd halias (by simp)
      · obtain ⟨hsome, htag'⟩ := not_or.mp hown
        obtain ⟨own, hown⟩ := Option.ne_none_iff_exists'.mp hsome
        rw [readNode_own hown htag', readNode_own hown (htag ▸ htag')]
        exact (h.own hown hn halias htag' hcopy v).bind_pure

/-- **A node with the property is read like its copy.** -/
theorem Transparent.read (h : r.Transparent A Q) (hn : Q n) (hcopy : Copies A F n n') (v : σ) :
    Alike A F Eq (r.read v n) (r.read v n') := by
  refine alike_follow hcopy fun G hcopy halias => alike_get.bind fun s s' hdepth => ?_
  rw [hdepth]
  refine (h.readsAlike s'.depth none v (h.meant hn) halias hcopy).bind ?_
  rintro ⟨good, keys, w⟩ _ rfl
  exact alike_pure rfl

/-- An entry of a record is alike if the field that it gives is. -/
lemma alike_record_entry {name : String} {strict : Bool} {fields : List (Field σ)} {key : Text}
    (h : ∀ f ∈ fields, f.name = key → ∀ v, Alike A F Eq (f.read n v) (f.read n' v))
    (done : List Text) (line line' : Nat) (v : σ) :
    Alike A F Eq ((record name strict fields).entry done line key n v)
      ((record name strict fields).entry done line' key n' v) := by
  dsimp only [record]
  cases hfind : fields.find? (·.name == key) with
  | none =>
      cases strict with
      | true => exact (alike_note _ _).bind fun _ _ _ => alike_pure rfl
      | false => exact alike_pure rfl
  | some f =>
      have hname : f.name = key := by simpa using List.find?_some hfind
      dsimp only
      split_ifs
      · exact (alike_note _ _).bind fun _ _ _ => alike_pure rfl
      · exact h f (List.mem_of_find?_eq_some hfind) hname v

end MappingType

lemma alike_ofText {name : String} {set : σ → Text → σ} {n n' : Node} (hcopy : Copies A F n n') (v : σ) :
    Alike A F Eq ((Field.ofText name set).read n v) ((Field.ofText name set).read n' v) := by
  refine (alike_text_eq hcopy).bind ?_
  rintro t _ rfl
  cases t <;> exact alike_pure rfl

/-! ### Documents -/

/-- No limit on how many nodes may lie behind aliases. -/
def unlimited (_ _ : Nat) : Bool := false

/-- The document with another root, in which no alias is left. It keeps the bound for how deep mappings may
be merged into each other. -/
def Document.copied (d : Document) (root : Node) : Document := { d with root, anchored := [] }

/-- **A document whose aliases are replaced is read as before**, as long as no limit on aliases strikes. -/
theorem Document.decode_copied {α : Type} {d : Document} {root : Node} {read : Node → Decoder α}
    (h : Alike d.anchored [] Eq (read d.root) (read root)) :
    (d.decode read unlimited).mapError Fault.kind = ((d.copied root).decode read).mapError Fault.kind := by
  have hstart : Agree d.anchored []
      { anchored := d.anchored, depth := (d.aliases + 1) * (d.size + 1), limit := unlimited }
      { anchored := [], depth := (d.aliases + 1) * (d.size + 1), limit := isExcessive } :=
    { anchored := rfl
      limit := fun _ _ => rfl
      following := List.Subset.refl []
      depth := rfl
      misfits := Iff.rfl
      aliased := rfl
      none_followed := rfl
      copy_limit := fun n => by simp [isExcessive] }
  have hall := (alike_visit.bind fun _ _ _ => h) _ _ hstart
  rw [Document.decode, Document.decode]
  dsimp only [Document.copied]
  obtain ⟨a, _, t, t', hrun, hrun', rfl, ht⟩ | ⟨f, f', hrun, hrun', hkind⟩ := hall
  · rw [hrun, hrun']
    simp only [List.isEmpty_iff, ht.misfits]
    split_ifs
    · rfl
    · rfl
  · rw [hrun, hrun']
    exact congrArg Except.error hkind

end Yaml

end LessonLang
