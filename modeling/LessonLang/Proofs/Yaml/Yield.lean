import Mathlib.Tactic
import LessonLang.Yaml.Record

/-!
What decoders make of a document.

* `Decoder.Yields d P` says that whatever `d` makes of a node has the property `P`. It is shown of a
  decoder by walking along it (`Decoder.Yields.bind`).
* `MappingType.Keeps r P` says that no entry takes the property from a value. Then no mapping does, with
  all that is merged into it (`MappingType.Keeps.read`), and what a document is read as has the property
  (`MappingType.Keeps.readDocument`).
-/

namespace LessonLang

namespace Yaml

namespace Decoder

variable {α β : Type} {P : α → Prop} {Q : β → Prop}

/-- **Whatever is read has a property.** -/
def Yields (d : Decoder α) (P : α → Prop) : Prop := ∀ s a s', d.run s = .ok (a, s') → P a

lemma yields_pure {a : α} (h : P a) : Yields (pure a) P := by
  intro s a' s' hrun
  obtain ⟨rfl, rfl⟩ := Prod.mk.inj (Except.ok.inj hrun)
  exact h

lemma yields_fail (f : Fault) : Yields (fail f) P := by
  intro s a s' hrun
  have herror : (Except.error f : Except Fault (α × DecodeState)) = .ok (a, s') := hrun
  exact absurd herror (by simp)

lemma Yields.bind {d : Decoder α} {f : α → Decoder β} (hd : d.Yields P)
    (hf : ∀ a, P a → (f a).Yields Q) : Yields (d >>= f) Q := by
  intro s b s' hrun
  rw [StateT.run_bind] at hrun
  cases hfirst : d.run s with
  | error e =>
      rw [hfirst] at hrun
      exact absurd hrun (by simp [Bind.bind, Except.bind])
  | ok p =>
      rw [hfirst] at hrun
      exact hf p.1 (hd s p.1 p.2 hfirst) p.2 b s' hrun

/-- What comes first may read anything. -/
lemma yields_bind {d : Decoder α} {f : α → Decoder β} (hf : ∀ a, (f a).Yields Q) :
    Yields (d >>= f) Q :=
  Yields.bind (P := fun _ => True) (fun _ _ _ _ => trivial) fun a _ => hf a

lemma yields_foldlM {f : β → α → Decoder β} (hf : ∀ b a, Q b → (f b a).Yields Q) (as : List α)
    {b : β} (hb : Q b) : Yields (as.foldlM f b) Q := by
  induction as generalizing b with
  | nil => exact yields_pure hb
  | cons a as ih => exact (hf b a hb).bind fun b hb => ih hb

lemma yields_follow {read : Node → Decoder α} (h : ∀ n, (read n).Yields P) (n : Node) :
    Yields (follow n read) P := by
  refine yields_bind fun _ => ?_
  cases n with
  | aliasNode line written number target =>
      refine yields_bind fun s => ?_
      split_ifs
      · exact yields_fail _
      cases s.anchored.lookup target with
      | none => exact yields_fail _
      | some n =>
          refine yields_bind fun _ => yields_bind fun _ => (h n).bind fun a ha => ?_
          exact yields_bind fun _ => yields_pure ha
  | scalar => exact h _
  | sequence => exact h _
  | mapping => exact h _

end Decoder

open Decoder

/-! ### Mappings -/

namespace MappingType

variable {σ : Type} {P : σ → Prop} {r : MappingType σ}

/-- **No part of a mapping takes a property from a value.** -/
structure Keeps (r : MappingType σ) (P : σ → Prop) : Prop where
  null : ∀ {v w}, P v → r.null v = some w → P w
  own : ∀ {read}, r.own = some read → ∀ n {v}, P v → (read n v).Yields P
  entry : ∀ done line key n {v}, P v → (r.entry done line key n v).Yields P

lemma Keeps.readEntry (h : r.Keeps P) (s : State σ) (e : Node × Node) (hs : P s.value) :
    (r.readEntry s e).Yields fun s => P s.value := by
  rw [MappingType.readEntry]
  split_ifs
  · exact yields_pure hs
  refine yields_bind fun key => ?_
  cases key with
  | none => exact yields_pure hs
  | some key =>
      dsimp only
      split_ifs
      · exact yields_pure hs
      · exact (h.entry s.done e.1.line key e.2 hs).bind fun v hv => yields_pure hv

/-- The induction is on how deep mappings may be merged into each other. -/
lemma Keeps.readNode (h : r.Keeps P) (depth : Nat) (nearer : Option (List Text)) {v : σ} (hv : P v)
    (n : Node) : (r.readNode depth nearer v n).Yields fun result => P result.2.2 := by
  induction depth generalizing nearer v n with
  | zero => exact yields_fail _
  | succ depth ih =>
      unfold MappingType.readNode
      split
      · rename_i _ own hown
        have hread : r.own = some own := by
          split_ifs at hown
          exact hown
        refine (h.own hread _ hv).bind fun w hw => ?_
        exact yields_pure hw
      · refine yields_bind fun found => ?_
        dsimp only
        split_ifs
        · cases hnull : r.null v with
          | none => exact yields_pure hv
          | some w => exact yields_pure (h.null hv hnull)
        · exact yields_bind fun _ => yields_pure hv
      · refine yields_bind fun distinct => ?_
        split_ifs
        · refine (yields_foldlM h.readEntry _ hv).bind fun s hs => ?_
          split
          · exact yields_pure hs
          · -- the keys are known if this mapping is merged in, and are read otherwise
            dsimp only
            cases s.nearer
            all_goals
              refine yields_bind fun keys => ?_
              refine Yields.bind (P := fun result => P result.2) ?_ fun result hresult =>
                yields_pure hresult
              refine yields_foldlM (fun result m hresult => ?_) _ hs
              split
              · exact yields_fail _
              · exact yields_fail _
              · refine yields_follow (fun m => ?_) _
                split
                · exact (ih _ hresult _).bind fun result hresult => yields_pure hresult
                · exact yields_fail _
        · exact yields_pure hv
      · exact yields_bind fun _ => yields_pure hv

lemma Keeps.read (h : r.Keeps P) {v : σ} (hv : P v) (n : Node) :
    (r.read v n).Yields fun result => P result.2 := by
  refine yields_follow (fun n => yields_bind fun s => ?_) n
  exact (h.readNode s.depth none hv n).bind fun _ hresult => yields_pure hresult

end MappingType

/-! ### Records and documents -/

section

variable {σ : Type} {P : σ → Prop}

lemma Field.yields_ofText {name : String} {set : σ → Text → σ} (hset : ∀ v t, P v → P (set v t))
    (n : Node) {v : σ} (hv : P v) : ((Field.ofText name set).read n v).Yields P := by
  refine yields_bind fun t => ?_
  cases t with
  | none => exact yields_pure hv
  | some t => exact yields_pure (hset v t hv)

/-- **A record keeps** what its fields keep. -/
lemma MappingType.keeps_record {name : String} {strict : Bool} {fields : List (Field σ)}
    (h : ∀ f ∈ fields, ∀ n v, P v → (f.read n v).Yields P) :
    (MappingType.record name strict fields).Keeps P where
  null hv hnull := absurd hnull (by simp [MappingType.record])
  own hown := absurd hown (by simp [MappingType.record])
  entry done line key n v hv := by
    dsimp only [MappingType.record]
    split
    · split_ifs
      · exact yields_bind fun _ => yields_pure hv
      · exact yields_pure hv
    · rename_i f hfind
      split_ifs
      · exact yields_bind fun _ => yields_pure hv
      · exact h f (List.mem_of_find?_eq_some hfind) n v hv

/-- **What is read from a document** has the property. -/
lemma MappingType.Keeps.readDocument {r : MappingType σ} (h : r.Keeps P) {init v : σ} (hinit : P init)
    {t : Text} (hread : readDocument r init t = .ok v) : P v := by
  rw [Yaml.readDocument] at hread
  split at hread
  · exact absurd hread (by simp)
  · exact absurd hread (by simp)
  split at hread
  · rename_i d _ _ _ _ hdecode
    obtain rfl := Except.ok.inj hread
    rw [Document.decode] at hdecode
    split at hdecode
    · exact absurd hdecode (by simp)
    · rename_i result s hrun
      split_ifs at hdecode
      obtain rfl := Except.ok.inj hdecode
      exact yields_bind (fun _ => h.read hinit d.root) _ _ s hrun
  · exact absurd hread (by simp)

end

end Yaml

end LessonLang
