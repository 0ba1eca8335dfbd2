import LessonLang.Proofs.Yaml.Copy

/-!
Reading a node and reading its copy.

* `Fault.kind` is a fault without the wording of its misfits, which names lines.
* `Agree A F s s'` relates what is known while a document is read, with aliases, to what is known while the
  copy is read: either both have misfits or none has.
* `Alike A F R d d'` says that two decoders, one for a node and one for its copy, both give values that are
  related by `R`, or fail alike. It is shown by walking along the decoders (`Alike.bind`, `alike_follow`, …).
-/

namespace LessonLang

namespace Yaml

/-- A fault without the wording of its misfits. -/
def Fault.kind : Fault → Fault
  | .misfits context _ => .misfits context []
  | f => f

/-- The type and the text of a scalar, if its spelling fits its tag. -/
def resolved? (tag value : Text) : Option (Text × Text) :=
  (Tag.resolve? tag value).bind fun found =>
    if found == Tag.binary then (Base64.decode? value).map (found, ·) else some (found, value)

/-- The text that a node is read as. Null is none. -/
def Node.text? : Node → Option Text
  | scalar _ tag value =>
    (resolved? tag value).bind fun (found, t) => if found == Tag.null then none else some t
  | _ => none

namespace Decoder

variable {α β γ δ : Type} {A : List (Nat × Node)} {F : List Nat} {R : α → β → Prop} {S : γ → δ → Prop}

/-- **The states of two decoders**, of which one reads nodes with aliases and the other their copies. The
first one is not limited in how many aliases it may follow. -/
structure Agree (A : List (Nat × Node)) (F : List Nat) (s s' : DecodeState) : Prop where
  anchored : s.anchored = A
  limit : ∀ m n, s.limit m n = false
  following : s.following ⊆ F
  depth : s.depth = s'.depth
  misfits : s.misfits = [] ↔ s'.misfits = []
  aliased : s'.aliased = 0
  none_followed : s'.following = []
  copy_limit : ∀ n, s'.limit 0 n = false

/-- **Two decoders are alike**: from states that agree, both give related values and come to states that
agree, or both fail and the faults are of the same kind. -/
def Alike (A : List (Nat × Node)) (F : List Nat) (R : α → β → Prop) (d : Decoder α) (d' : Decoder β) :
    Prop :=
  ∀ s s', Agree A F s s' →
    (∃ a b t t', d.run s = .ok (a, t) ∧ d'.run s' = .ok (b, t') ∧ R a b ∧ Agree A F t t') ∨
      ∃ f f', d.run s = .error f ∧ d'.run s' = .error f' ∧ f.kind = f'.kind

variable {d : Decoder α} {d' : Decoder β}

/-! ### Rules for putting decoders together -/

/-- Decoders that read nothing are alike if their values are related. -/
lemma alike_pure {a : α} {b : β} (h : R a b) : Alike A F R (pure a) (pure b) := fun s s' hs =>
  .inl ⟨a, b, s, s', rfl, rfl, h, hs⟩

/-- Decoders that fail are alike if their faults are of one kind. -/
lemma alike_fail {f f' : Fault} (h : f.kind = f'.kind) : Alike A F R (fail f) (fail f') := fun _ _ _ =>
  .inr ⟨f, f', rfl, rfl, h⟩

lemma Alike.imp {R' : α → β → Prop} (h : Alike A F R d d') (hR : ∀ a b, R a b → R' a b) :
    Alike A F R' d d' := by
  intro s s' hs
  obtain ⟨a, b, t, t', hd, hd', hab, ht⟩ | h := h s s' hs
  · exact .inl ⟨a, b, t, t', hd, hd', hR a b hab, ht⟩
  · exact .inr h

/-- Where the first decoder gives a value, the second goes on with it. -/
lemma run_bind_ok {f : α → Decoder γ} {s t : DecodeState} {a : α} (h : d.run s = .ok (a, t)) :
    (d >>= f).run s = (f a).run t := by
  rw [StateT.run_bind, h]
  rfl

/-- Where the first decoder fails, the sequence does. -/
lemma run_bind_error {f : α → Decoder γ} {s : DecodeState} {e : Fault} (h : d.run s = .error e) :
    (d >>= f).run s = .error e := by
  rw [StateT.run_bind, h]
  rfl

/-- **Sequences of decoders are alike** if their parts are. -/
lemma Alike.bind {f : α → Decoder γ} {f' : β → Decoder δ} (hd : Alike A F R d d')
    (hf : ∀ a b, R a b → Alike A F S (f a) (f' b)) : Alike A F S (d >>= f) (d' >>= f') := by
  intro s s' hs
  obtain ⟨a, b, t, t', hrun, hrun', hab, ht⟩ | ⟨e, e', hrun, hrun', he⟩ := hd s s' hs
  · rw [run_bind_ok hrun, run_bind_ok hrun']
    exact hf a b hab t t' ht
  · exact .inr ⟨e, e', run_bind_error hrun, run_bind_error hrun', he⟩

/-- A function of what was read may be put behind both decoders. -/
lemma Alike.bind_pure {f : α → γ} {d d' : Decoder α} (h : Alike A F Eq d d') :
    Alike A F Eq (d >>= fun a => pure (f a)) (d' >>= fun a => pure (f a)) := by
  refine h.bind ?_
  rintro a _ rfl
  exact alike_pure rfl

lemma alike_get : Alike A F (fun s s' => s.depth = s'.depth) (get : Decoder DecodeState) get :=
  fun s s' hs => .inl ⟨s, s', s, s', rfl, rfl, hs.depth, hs⟩

/-- Items are read one after the other. -/
lemma alike_mapM {ι κ : Type} {T : ι → κ → Prop} {is : List ι} {ks : List κ} {f : ι → Decoder α}
    {f' : κ → Decoder α} (h : List.Forall₂ T is ks) (hf : ∀ i k, T i k → Alike A F Eq (f i) (f' k)) :
    Alike A F Eq (is.mapM f) (ks.mapM f') := by
  induction h with
  | nil => exact alike_pure rfl
  | cons hhead _ ih =>
      rw [List.mapM_cons, List.mapM_cons]
      refine (hf _ _ hhead).bind ?_
      rintro a _ rfl
      exact ih.bind_pure

/-- Folds are alike if each of their steps is. -/
lemma alike_foldlM {ι κ : Type} {T : ι → κ → Prop} {is : List ι} {ks : List κ} {f : α → ι → Decoder α}
    {f' : α → κ → Decoder α} (h : List.Forall₂ T is ks)
    (hf : ∀ a i k, T i k → Alike A F Eq (f a i) (f' a k)) (a : α) :
    Alike A F Eq (is.foldlM f a) (ks.foldlM f' a) := by
  induction h generalizing a with
  | nil => exact alike_pure rfl
  | cons hhead _ ih =>
      rw [List.foldlM_cons, List.foldlM_cons]
      refine (hf a _ _ hhead).bind ?_
      rintro b _ rfl
      exact ih b

/-! ### Misfits -/

/-- The state with more misfits. -/
def noted (s : DecodeState) (ms : List Misfit) : DecodeState := { s with misfits := s.misfits ++ ms }

/-- States still agree when misfits are noted in both of them or in none. -/
lemma Agree.noted {s s' : DecodeState} {ms ms' : List Misfit} (hs : Agree A F s s')
    (h : ms = [] ↔ ms' = []) : Agree A F (noted s ms) (noted s' ms') :=
  { hs with misfits := by simp [Decoder.noted, hs.misfits, h] }

/-- Decoders that only note misfits are alike if both note some or none does. -/
lemma alike_of_notes {a : α} {b : β} {ms ms' : List Misfit} (hd : ∀ s, d.run s = .ok (a, noted s ms))
    (hd' : ∀ s, d'.run s = .ok (b, noted s ms')) (hR : R a b) (h : ms = [] ↔ ms' = []) :
    Alike A F R d d' := fun s s' hs =>
  .inl ⟨a, b, noted s ms, noted s' ms', hd s, hd' s', hR, hs.noted h⟩

lemma run_note (m : Misfit) (s : DecodeState) : (note m).run s = .ok ((), noted s [m]) := rfl

lemma run_notes (ms : List Misfit) (s : DecodeState) : (ms.forM note).run s = .ok ((), noted s ms) := by
  induction ms generalizing s with
  | nil =>
      rw [noted, List.append_nil]
      rfl
  | cons m ms ih =>
      change (note m >>= fun _ => ms.forM note).run s = _
      rw [run_bind_ok (run_note m s), ih]
      simp [noted]

/-- To note a misfit is alike, whatever its wording. -/
lemma alike_note (m m' : Misfit) : Alike A F Eq (note m) (note m') :=
  alike_of_notes (run_note m) (run_note m') rfl (by simp)

lemma run_distinctKeys (entries : List (Node × Node)) (s : DecodeState) :
    (distinctKeys entries).run s = .ok ((Node.repeatedKeys (entries.map (·.1))).isEmpty,
      noted s (Node.repeatedKeys (entries.map (·.1)))) := by
  rw [distinctKeys, run_bind_ok (run_notes _ s)]
  rfl

/-- Keys are found to be distinct alike. -/
lemma alike_distinctKeys {entries entries' : List (Node × Node)}
    (h : Node.Distinct (entries.map (·.1)) ↔ Node.Distinct (entries'.map (·.1))) :
    Alike A F Eq (distinctKeys entries) (distinctKeys entries') := by
  rw [← Node.repeatedKeys_eq_nil_iff, ← Node.repeatedKeys_eq_nil_iff] at h
  refine alike_of_notes (run_distinctKeys entries) (run_distinctKeys entries') ?_ h
  rw [Bool.eq_iff_iff, List.isEmpty_iff, List.isEmpty_iff, h]

/-- What does not match is noted as a misfit, and reading goes on. -/
lemma run_mismatch (n : Node) (expected : Text) :
    ∃ ms ≠ [], ∀ s, (mismatch n expected).run s = .ok ((), noted s ms) := by
  cases n with
  | mapping line tag entries =>
      by_cases h : Node.repeatedKeys (entries.map (·.1)) = []
      · refine ⟨[(Node.mapping line tag entries).misfit expected], by simp, fun s => ?_⟩
        rw [mismatch, run_bind_ok (run_distinctKeys entries s), h]
        simp [noted, run_note]
      · refine ⟨_, h, fun s => ?_⟩
        rw [mismatch, run_bind_ok (run_distinctKeys entries s), if_neg (by simpa using h)]
        rfl
  | scalar => exact ⟨_, by simp, run_note _⟩
  | sequence => exact ⟨_, by simp, run_note _⟩
  | aliasNode => exact ⟨_, by simp, run_note _⟩

/-- A node of the wrong type is noted, in some way. -/
lemma alike_mismatch (n n' : Node) (expected expected' : Text) :
    Alike A F Eq (mismatch n expected) (mismatch n' expected') := by
  obtain ⟨ms, hms, h⟩ := run_mismatch n expected
  obtain ⟨ms', hms', h'⟩ := run_mismatch n' expected'
  exact alike_of_notes h h' rfl (iff_of_false hms hms')

/-! ### Parts that are read on their own -/

/-- States without their misfits agree if they do with them. -/
lemma Agree.separate {s s' : DecodeState} (hs : Agree A F s s') :
    Agree A F { anchored := s.anchored, depth := s.depth, limit := s.limit }
      { anchored := s'.anchored, depth := s'.depth, limit := s'.limit } where
  anchored := hs.anchored
  limit := hs.limit
  following := List.nil_subset F
  depth := hs.depth
  misfits := Iff.rfl
  aliased := rfl
  none_followed := rfl
  copy_limit := hs.copy_limit

/-- Decoders whose misfits are set apart are alike, and either both have some or none has. -/
lemma alike_separately (h : Alike A F R d d') :
    Alike A F (fun p p' => R p.1 p'.1 ∧ (p.2 = [] ↔ p'.2 = [])) (separately d) (separately d') := by
  intro s s' hs
  obtain ⟨a, b, t, t', hd, hd', hab, ht⟩ | ⟨f, f', hd, hd', hf⟩ := h _ _ hs.separate
  · refine .inl ⟨(a, t.misfits), (b, t'.misfits), s, s', ?_, ?_, ⟨hab, ht.misfits⟩, hs⟩
    · rw [StateT.run, separately, hd]
    · rw [StateT.run, separately, hd']
  · refine .inr ⟨f, f', ?_, ?_, hf⟩
    · rw [StateT.run, separately, hd]
    · rw [StateT.run, separately, hd']

lemma alike_whole {d d' : Decoder α} (h : Alike A F Eq d d') : Alike A F Eq (whole d) (whole d') := by
  refine (alike_separately h).bind ?_
  rintro ⟨a, ms⟩ ⟨_, ms'⟩ ⟨rfl, hms⟩
  refine (alike_of_notes (run_notes ms) (run_notes ms') rfl hms).bind fun _ _ _ => alike_pure ?_
  simp only [List.isEmpty_iff, hms]

lemma alike_explain (context : Text) (h : Alike A F R d d') :
    Alike A F R (explain context d) (explain context d') := by
  intro s s' hs
  obtain ⟨a, b, t, t', hd, hd', hab, ht⟩ | ⟨f, f', hd, hd', hf⟩ := h s s' hs
  · refine .inl ⟨a, b, t, t', ?_, ?_, hab, ht⟩
    · rw [StateT.run, explain, hd]
    · rw [StateT.run, explain, hd']
  · right
    simp only [StateT.run, explain] at hd hd' ⊢
    rw [hd, hd']
    cases f <;> cases f' <;> simp_all [Fault.kind]

/-- The context of a misfit is only wording. -/
lemma alike_within (context : Text) (h : Alike A F R d d') :
    Alike A F R (within context d) (within context d') := by
  refine alike_explain context ((alike_separately h).bind ?_)
  rintro ⟨a, ms⟩ ⟨b, ms'⟩ ⟨hab, hms⟩
  simp only [List.isEmpty_iff, hms]
  split_ifs
  · exact alike_pure hab
  · exact alike_fail rfl

/-! ### Following aliases -/

/-- The state with one more node counted. -/
def visited (s : DecodeState) : DecodeState :=
  { s with decoded := s.decoded + 1, aliased := s.aliased + if s.following.isEmpty then 0 else 1 }

lemma visit_run (s : DecodeState) : visit.run s =
    (if s.limit (visited s).aliased (visited s).decoded then fail .malformed else pure () : Decoder Unit).run
      (visited s) := rfl

/-- A visit only counts, as long as no limit is passed. -/
lemma run_visit {s : DecodeState} (h : s.limit (visited s).aliased (visited s).decoded = false) :
    visit.run s = .ok ((), visited s) := by
  rw [visit_run, h]
  rfl

/-- States agree when both have visited one more node. -/
lemma Agree.visited {s s' : DecodeState} (hs : Agree A F s s') : Agree A F (visited s) (visited s') :=
  { hs with aliased := by simp [Decoder.visited, hs.aliased, hs.none_followed] }

lemma Agree.run_visit {s s' : DecodeState} (hs : Agree A F s s') :
    visit.run s = .ok ((), Decoder.visited s) ∧ visit.run s' = .ok ((), Decoder.visited s') :=
  ⟨Decoder.run_visit (hs.limit _ _), Decoder.run_visit (by rw [hs.visited.aliased]; exact hs.copy_limit _)⟩

lemma alike_visit : Alike A F Eq visit visit := fun _ _ hs =>
  .inl ⟨(), (), _, _, hs.run_visit.1, hs.run_visit.2, rfl, hs.visited⟩

/-- **An alias is followed** to the node that it stands for, which is read in its place. -/
lemma run_follow_alias {line number target : Nat} {name : Text} {n : Node} {read : Node → Decoder α}
    {s : DecodeState} (hlimit : ∀ m n, s.limit m n = false) (hnumber : number ∉ s.following)
    (hlookup : s.anchored.lookup target = some n) :
    (follow (.aliasNode line name number target) read).run s =
      (read n >>= fun a => do
        modify fun t => { t with following := s.following }
        pure a).run (visited { visited s with following := number :: s.following }) := by
  have hget : (get : Decoder DecodeState).run (visited s) = .ok (visited s, visited s) := rfl
  have hcontains : (visited s).following.contains number = false := by simpa [visited] using hnumber
  have hlookup' : (visited s).anchored.lookup target = some n := hlookup
  rw [follow, run_bind_ok (run_visit (hlimit _ _))]
  simp only [run_bind_ok hget, hcontains, hlookup', Bool.false_eq_true, if_false]
  rw [run_bind_ok (rfl : (set _ : Decoder PUnit).run _ = _)]
  exact run_bind_ok (run_visit (hlimit _ _))

/-- Where there is no alias, nothing is followed. -/
lemma follow_of_isAlias_eq_false {n : Node} (h : n.isAlias = false) (read : Node → Decoder α) :
    follow n read = visit >>= fun _ => read n := by
  cases n with
  | aliasNode => exact absurd h (by simp)
  | _ => rfl

/-- **Coming to a node and to its copy.** What is meant by the node is read like the copy. -/
lemma alike_follow {n n' : Node} {read : Node → Decoder α} {read' : Node → Decoder β}
    (h : Copies A F n n')
    (hread : ∀ G, Copies A G (n.meant A) n' → (n.meant A).isAlias = false →
      Alike A G R (read (n.meant A)) (read' n')) :
    Alike A F R (follow n read) (follow n' read') := by
  rw [follow_of_isAlias_eq_false h.isAlias_eq_false read']
  by_cases halias : n.isAlias = false
  · rw [follow_of_isAlias_eq_false halias read]
    refine alike_visit.bind fun _ _ _ => ?_
    have hmeant : n.meant A = n := Node.meant_of_isAlias_eq_false halias
    rw [hmeant] at hread
    exact hread F h halias
  · cases h with
    | aliasNode hnumber hlookup halias' hcopy =>
        rename_i line name number target m
        have hmeant : (Node.aliasNode line name number target).meant A = m := by
          rw [Node.meant, hlookup]
          rfl
        rw [hmeant] at hread
        intro s s' hs
        have hfollowing : number ∉ s.following := fun hmem => hnumber (hs.following hmem)
        rw [run_follow_alias hs.limit hfollowing (by rw [hs.anchored, hlookup]),
          run_bind_ok hs.run_visit.2]
        have hs₂ : Agree A (number :: F) (visited { visited s with following := number :: s.following })
            (visited s') :=
          { hs with
            following := List.cons_subset_cons number hs.following
            aliased := hs.visited.aliased }
        obtain ⟨a, b, t, t', hrun, hrun', hab, ht⟩ | ⟨f, f', hrun, hrun', hf⟩ :=
          hread _ hcopy halias' _ _ hs₂
        · rw [run_bind_ok hrun]
          exact .inl ⟨a, b, _, t', rfl, hrun', hab, { ht with following := hs.following }⟩
        · exact .inr ⟨f, f', run_bind_error hrun, hrun', hf⟩
    | _ => exact absurd rfl halias

/-! ### Texts and lists -/

/-- A scalar is read as its spelling is resolved. -/
lemma scalar_eq (tag value : Text) :
    scalar tag value = match resolved? tag value with
      | some p => pure p
      | none => fail .malformed := by
  rw [scalar, resolved?]
  cases Tag.resolve? tag value with
  | none => rfl
  | some found =>
      dsimp only [Option.bind_some]
      split_ifs
      · cases Base64.decode? value <;> rfl
      · rfl

lemma alike_scalar (tag value : Text) :
    Alike A F (fun p p' => p = p' ∧ resolved? tag value = some p) (scalar tag value)
      (scalar tag value) := by
  rw [scalar_eq]
  cases h : resolved? tag value with
  | none => exact alike_fail rfl
  | some p => exact alike_pure ⟨rfl, rfl⟩

/-- A text is read alike from a node and its copy, and it is what the node means. -/
lemma alike_text {n n' : Node} (h : Copies A F n n') :
    Alike A F (fun t t' => t = t' ∧ ∀ u, t = some u → (n.meant A).text? = some u) (text n)
      (text n') := by
  refine alike_follow h fun G hcopy halias => ?_
  generalize n.meant A = m at *
  cases hcopy with
  | scalar =>
      refine (alike_scalar _ _).bind ?_
      rintro ⟨found, t⟩ _ ⟨rfl, hresolved⟩
      refine alike_pure ⟨rfl, fun u hu => ?_⟩
      rw [Node.text?, hresolved]
      exact hu
  | sequence => exact (alike_mismatch _ _ _ _).bind fun _ _ _ => alike_pure ⟨rfl, by simp⟩
  | mapping => exact (alike_mismatch _ _ _ _).bind fun _ _ _ => alike_pure ⟨rfl, by simp⟩
  | aliasNode => exact absurd halias (by simp)

lemma alike_text_eq {n n' : Node} (h : Copies A F n n') : Alike A F Eq (text n) (text n') :=
  (alike_text h).imp fun _ _ hR => hR.1

/-- Lists are read alike if their items are. -/
lemma alike_listOf {n n' : Node} (expected : Text) {item : Node → Decoder (Option α)}
    (h : Copies A F n n') (halias : n.isAlias = false)
    (hitem : ∀ i i', Copies A F i i' → Alike A F Eq (item i) (item i')) :
    Alike A F Eq (listOf expected item n) (listOf expected item n') := by
  cases n with
  | scalar =>
      cases h
      refine (alike_scalar _ _).bind ?_
      rintro ⟨found, t⟩ _ ⟨rfl, -⟩
      dsimp only
      split_ifs
      · exact alike_pure rfl
      · exact (alike_mismatch _ _ _ _).bind fun _ _ _ => alike_pure rfl
  | sequence =>
      obtain ⟨line', items', rfl, hitems⟩ := h.items
      exact (alike_mapM hitems hitem).bind_pure
  | mapping =>
      obtain ⟨line', entries', rfl, -⟩ := h.entries
      exact (alike_mismatch _ _ _ _).bind fun _ _ _ => alike_pure rfl
  | aliasNode => exact absurd halias (by simp)

end Decoder

end Yaml

end LessonLang
