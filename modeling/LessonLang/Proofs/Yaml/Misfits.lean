import LessonLang.Proofs.Yaml.Transparent

/-!
Nodes of the wrong type.

* `Decoder.Notes d s` says that from the state `s`, the decoder `d` fails or leaves misfits behind. It is
  shown by walking along the decoder (`Decoder.notes_bind`, `Decoder.Notes.bind`).
* `Decoder.run_within_ne_ok`: what is read by such a decoder on its own is refused.
* `MappingType.notes_read_alias_scalar`: an alias for a scalar that is not null is no mapping.
-/

namespace LessonLang

namespace Yaml

namespace Decoder

variable {α β : Type} {d : Decoder α} {s : DecodeState}

lemma run_bind_eq_ok_iff {f : α → Decoder β} {u : DecodeState} {b : β} :
    (d >>= f).run s = .ok (b, u) ↔ ∃ a t, d.run s = .ok (a, t) ∧ (f a).run t = .ok (b, u) := by
  cases h : d.run s with
  | error e => simp [run_bind_error h]
  | ok p =>
      obtain ⟨a, t⟩ := p
      simp [run_bind_ok h]

lemma eq_of_run_pure {a b : α} {t : DecodeState} (h : (pure a : Decoder α).run s = .ok (b, t)) :
    b = a ∧ t = s := by
  obtain ⟨rfl, rfl⟩ := Prod.mk.inj (Except.ok.inj h)
  exact ⟨rfl, rfl⟩

lemma run_fail_ne_ok (f : Fault) (a : α) (t : DecodeState) : (fail f : Decoder α).run s ≠ .ok (a, t) := by
  intro h
  have herror : (Except.error f : Except Fault (α × DecodeState)) = .ok (a, t) := h
  exact absurd herror (by simp)

/-! ### Decoders that leave misfits behind -/

/-- **From this state, a decoder cannot succeed without misfits.** -/
def Notes (d : Decoder α) (s : DecodeState) : Prop := ∀ a t, d.run s = .ok (a, t) → t.misfits ≠ []

lemma notes_fail (f : Fault) : Notes (fail f : Decoder α) s := fun a t h =>
  absurd h (run_fail_ne_ok f a t)

/-- Misfits that come last. -/
lemma notes_bind {f : α → Decoder β} (h : ∀ a t, d.run s = .ok (a, t) → Notes (f a) t) :
    Notes (d >>= f) s := by
  intro b u hrun
  obtain ⟨a, t, ha, hb⟩ := run_bind_eq_ok_iff.mp hrun
  exact h a t ha b u hb

/-- Misfits that come first, where nothing drops them. -/
lemma Notes.bind {f : α → Decoder β} (h : Notes d s)
    (hf : ∀ a b t u, (f a).run t = .ok (b, u) → u.misfits = t.misfits) : Notes (d >>= f) s := by
  intro b u hrun
  obtain ⟨a, t, ha, hb⟩ := run_bind_eq_ok_iff.mp hrun
  rw [hf a b t u hb]
  exact h a t ha

lemma Notes.bind_pure {f : α → β} (h : Notes d s) : Notes (d >>= fun a => pure (f a)) s :=
  h.bind fun _ _ _ _ hrun => congrArg DecodeState.misfits (eq_of_run_pure hrun).2

lemma notes_mismatch (n : Node) (expected : Text) : Notes (mismatch n expected) s := by
  obtain ⟨ms, hms, hrun⟩ := run_mismatch n expected
  intro a t h
  obtain ⟨-, rfl⟩ := Prod.mk.inj (Except.ok.inj ((hrun s).symm.trans h))
  simp [noted, hms]

lemma eq_visited_of_run_visit {t : DecodeState} (h : visit.run s = .ok ((), t)) : t = visited s := by
  rw [visit_run] at h
  split_ifs at h
  · exact absurd h (run_fail_ne_ok _ _ _)
  · exact (eq_of_run_pure h).2

/-- An alias is read as the node it refers to. -/
lemma notes_follow_alias {line number target : Nat} {name : Text} {n : Node} {read : Node → Decoder α}
    (hlookup : s.anchored.lookup target = some n) (h : ∀ t, Notes (read n) t) :
    Notes (follow (.aliasNode line name number target) read) s := by
  refine notes_bind fun _ t hvisit => notes_bind fun u t' hget => ?_
  obtain rfl := eq_visited_of_run_visit hvisit
  obtain ⟨rfl, rfl⟩ := Prod.mk.inj (Except.ok.inj hget)
  split_ifs
  · exact notes_fail _
  · have hlookup' : (visited s).anchored.lookup target = some n := hlookup
    rw [hlookup']
    refine notes_bind fun _ _ _ => notes_bind fun _ _ _ => (h _).bind fun a b t v hrun => ?_
    -- what is being followed is put back, and the misfits are kept
    obtain ⟨_, w, hmodify, hpure⟩ := run_bind_eq_ok_iff.mp hrun
    obtain ⟨-, rfl⟩ := Prod.mk.inj (Except.ok.inj hmodify)
    rw [(eq_of_run_pure hpure).2]

/-- **What must be read without misfits** is refused. -/
lemma run_within_ne_ok {context : Text}
    (h : Notes d { anchored := s.anchored, depth := s.depth, limit := s.limit }) (a : α)
    (t : DecodeState) : (within context d).run s ≠ .ok (a, t) := by
  intro hrun
  have hinner : (separately d >>= fun p =>
      if p.2.isEmpty then pure p.1 else fail (.misfits [] p.2)).run s = .ok (a, t) := by
    rw [within, StateT.run, explain] at hrun
    split at hrun
    · rename_i hinner
      exact hinner.trans hrun
    all_goals exact absurd hrun (by simp)
  obtain ⟨⟨b, ms⟩, u, hseparately, hrest⟩ := run_bind_eq_ok_iff.mp hinner
  rw [StateT.run, separately] at hseparately
  split at hseparately
  · rename_i hd
    obtain ⟨hp, -⟩ := Prod.mk.inj (Except.ok.inj hseparately)
    obtain ⟨rfl, rfl⟩ := Prod.mk.inj hp
    rw [if_neg (by simpa using h _ _ hd)] at hrest
    exact run_fail_ne_ok _ _ _ hrest
  · exact absurd hseparately (by simp)

end Decoder

open Decoder

/-! ### Mappings -/

namespace MappingType

variable {σ : Type} {r : MappingType σ} {s : DecodeState} {line : Nat} {tag value : Text}

lemma notes_readNode_scalar {depth : Nat} {nearer : Option (List Text)} {v : σ} (hown : r.own = none)
    (htype : Tag.resolve? tag value ≠ some Tag.null) :
    Notes (r.readNode depth nearer v (.scalar line tag value)) s := by
  cases depth with
  | zero => exact notes_fail _
  | succ depth =>
      rw [readNode_scalar (.inl hown), scalar_eq]
      cases hresolved : resolved? tag value with
      | none => exact notes_bind fun _ _ h => absurd h (run_fail_ne_ok _ _ _)
      | some p =>
          have hnull : p.1 ≠ Tag.null := by
            rintro hnull
            obtain ⟨found, hfound, hp⟩ := Option.bind_eq_some_iff.mp hresolved
            split_ifs at hp with hbinary
            · obtain ⟨t, -, rfl⟩ := Option.map_eq_some_iff.mp hp
              exact htype (hfound.trans (congrArg some hnull))
            · obtain rfl := Option.some.inj hp
              exact htype (hfound.trans (congrArg some hnull))
          refine notes_bind fun q t hrun => ?_
          obtain ⟨rfl, -⟩ := eq_of_run_pure hrun
          obtain ⟨found, w⟩ := q
          dsimp only
          rw [if_neg (by simpa using hnull)]
          exact (notes_mismatch _ _).bind_pure (f := fun _ => _)

/-- **An alias for a scalar that is not null** is no mapping. -/
lemma notes_read_alias_scalar {line' number target : Nat} {name : Text} {v : σ} (hown : r.own = none)
    (hlookup : s.anchored.lookup target = some (.scalar line tag value))
    (htype : Tag.resolve? tag value ≠ some Tag.null) :
    Notes (r.read v (.aliasNode line' name number target)) s :=
  notes_follow_alias hlookup fun _ => notes_bind fun _ _ _ =>
    (notes_readNode_scalar hown htype).bind_pure (f := fun p => (p.1, p.2.2))

end MappingType

end Yaml

end LessonLang
