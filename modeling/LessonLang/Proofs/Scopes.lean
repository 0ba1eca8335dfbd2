import LessonLang.Proofs.Machine.Nested

/-!
Changes of scopes.

* A `Scopes.Change` opens a scope, closes the innermost one or binds a name in it, and
  `Scopes.after` is what a history of changes makes of the empty global scope. Closing the global
  scope fails and is a change all the same.
* Changes are `Covered` if no part at their beginning closes more scopes than it opens, and
  `Balanced` if in addition they close as many as they open. Both are decided by counting.
* `Scopes.opened_changed`: covered changes leave all scopes around the innermost one alone. Balanced
  changes inside a new scope leave that as the only one to close (`Balanced.pop?_changed`).
* `Scopes.Settled` says that what was opened has been closed again, also of changes that try to
  close the global scope. Where more is opened than closed, something stays open
  (`Scopes.exists_push_of_lt`).
-/

namespace LessonLang

namespace Scopes

/-! ### Changes -/

/-- What is done to scopes: one is opened with some bindings, the innermost one is closed, or a name
is bound in it. -/
inductive Change where
  | push (bindings : Table Value)
  | pop
  | define (name : Text) (value : Value)

/-- The scopes after a change. The attempt to close the global scope leaves them as they are. -/
def change (s : Scopes) : Change → Scopes
  | .push bindings => s.push bindings
  | .pop => s.pop?.getD s
  | .define name value => s.define name value

/-- The scopes after some changes. -/
def changed (s : Scopes) (cs : List Change) : Scopes := cs.foldl change s

/-- **The scopes that a history leads to**, from the empty global scope alone. -/
def after (history : List Change) : Scopes := empty.changed history

/-- Changes one after the other are one list of changes. -/
lemma changed_append (s : Scopes) (cs ds : List Change) :
    s.changed (cs ++ ds) = (s.changed cs).changed ds :=
  List.foldl_append

lemma changed_concat (s : Scopes) (cs : List Change) (c : Change) :
    s.changed (cs ++ [c]) = (s.changed cs).change c :=
  changed_append s cs [c]

lemma after_append (history cs : List Change) :
    after (history ++ cs) = (after history).changed cs :=
  changed_append empty history cs

/-- Only the outermost scope cannot be closed. -/
lemma pop?_eq_none_iff {s : Scopes} : s.pop? = none ↔ s.outer = [] := by
  rw [pop?]
  cases s.outer <;> simp

/-- Closing a scope leaves those around it. -/
lemma outer_of_pop? {s s' : Scopes} (h : s.pop? = some s') : s.outer = s'.tables := by
  rw [pop?] at h
  split at h
  · exact absurd h (by simp)
  · next houter => rw [houter, ← Option.some.inj h, tables]

/-- To close the outermost scope changes nothing. -/
lemma change_pop_of_none {s : Scopes} (h : s.pop? = none) : s.change .pop = s := by
  rw [change, h]
  rfl

/-- To close any other scope leaves what is around it. -/
lemma change_pop_of_some {s s' : Scopes} (h : s.pop? = some s') : s.change .pop = s' := by
  rw [change, h]
  rfl

/-! ### Balance -/

/-- A change that opens a scope. -/
@[simp]
def Change.isPush : Change → Bool
  | push _ => true
  | _ => false

/-- A change that is to close a scope. -/
@[simp]
def Change.isPop : Change → Bool
  | pop => true
  | _ => false

/-- How many scopes the changes open. -/
def pushes (cs : List Change) : Nat := cs.countP Change.isPush

/-- How many scopes the changes are to close. -/
def pops (cs : List Change) : Nat := cs.countP Change.isPop

section

variable (c : Change) (cs ds : List Change)

@[simp] lemma pushes_nil : pushes [] = 0 := rfl

@[simp] lemma pops_nil : pops [] = 0 := rfl

@[simp] lemma pushes_cons : pushes (c :: cs) = pushes cs + if c.isPush then 1 else 0 :=
  List.countP_cons

@[simp] lemma pops_cons : pops (c :: cs) = pops cs + if c.isPop then 1 else 0 := List.countP_cons

@[simp] lemma pushes_append : pushes (cs ++ ds) = pushes cs + pushes ds := List.countP_append

@[simp] lemma pops_append : pops (cs ++ ds) = pops cs + pops ds := List.countP_append

end

/-- No part at the beginning closes more scopes than it opens. -/
def Covered (cs : List Change) : Prop := ∀ p, p <+: cs → pops p ≤ pushes p

/-- **Balanced changes**: no part at the beginning closes more scopes than it opens, and in all as
many are closed as are opened. -/
structure Balanced (cs : List Change) : Prop where
  covered : Covered cs
  even : pops cs = pushes cs

instance (cs : List Change) : Decidable (Covered cs) :=
  decidable_of_iff (∀ p ∈ cs.inits, pops p ≤ pushes p)
    (forall_congr' fun p => imp_congr_left (List.mem_inits p cs))

instance (cs : List Change) : Decidable (Balanced cs) :=
  decidable_of_iff (Covered cs ∧ pops cs = pushes cs) ⟨fun h => ⟨h.1, h.2⟩, fun h => ⟨h.1, h.2⟩⟩

section

variable {cs ds : List Change}

lemma covered_nil : Covered [] := by
  intro p hp
  rw [List.prefix_nil.mp hp]
  exact le_rfl

/-- The front part of covered changes is covered. -/
lemma Covered.of_append (h : Covered (cs ++ ds)) : Covered cs :=
  fun p hp => h p (hp.trans (List.prefix_append cs ds))

lemma Covered.le (h : Covered cs) : pops cs ≤ pushes cs := h cs List.prefix_rfl

/-- Covered changes stay so with one more, unless it closes a scope that none of them opened. -/
lemma covered_concat {c : Change} :
    Covered (cs ++ [c]) ↔ Covered cs ∧ (c = .pop → pops cs < pushes cs) := by
  constructor
  · intro h
    refine ⟨h.of_append, ?_⟩
    rintro rfl
    simpa using h.le
  · rintro ⟨h, hpop⟩ p hp
    obtain rfl | hp := List.prefix_concat_iff.mp hp
    · have hle := h.le
      cases c with
      | push b => simp; omega
      | pop => simpa using hpop rfl
      | define name value => simpa using hle
    · exact h p hp

/-- **Where more is opened than closed**, there is an opening behind which no more scopes are closed
than opened. -/
lemma exists_push_of_lt (h : pops cs < pushes cs) :
    ∃ before b later, cs = before ++ .push b :: later ∧ Covered later := by
  induction hn : cs.length using Nat.strong_induction_on generalizing cs with
  | _ n ih =>
    subst hn
    cases cs with
    | nil => exact absurd h (Nat.lt_irrefl 0)
    | cons c cs =>
        have hrest : ∀ p rest, cs = p ++ rest → pops rest < pushes rest →
            ∃ before b later, c :: cs = before ++ .push b :: later ∧ Covered later := by
          rintro p rest rfl hlt
          obtain ⟨before, b, later, rfl, hl⟩ := ih rest.length (by simp) hlt rfl
          exact ⟨c :: p ++ before, b, later, by simp, hl⟩
        cases c with
        | push b =>
            by_cases hc : Covered cs
            · exact ⟨[], b, cs, rfl, hc⟩
            · -- the opening is closed: cut off what closes it, and the rest opens as much more
              simp only [Covered, not_forall, not_le] at hc
              obtain ⟨p, ⟨rest, rfl⟩, hp⟩ := hc
              have hlt : pops p + pops rest < pushes p + pushes rest + 1 := by simpa using h
              exact hrest p rest rfl (by omega)
        | pop =>
            have hlt : pops cs + 1 < pushes cs := by simpa using h
            exact hrest [] cs rfl (by omega)
        | define name value => exact hrest [] cs rfl (by simpa using h)

/-- **What was opened has been closed again**: behind every opening there are changes that close more
scopes than they open. A scope that is still there after such changes is the innermost one. -/
def Settled (cs : List Change) : Prop :=
  ∀ before b later, cs = before ++ .push b :: later → ¬Covered later

/-- Where nothing from before is closed, it is enough to count. -/
lemma Covered.settled_iff (h : Covered cs) : Settled cs ↔ pops cs = pushes cs := by
  constructor
  · intro hs
    by_contra hne
    obtain ⟨before, b, later, rfl, hl⟩ := exists_push_of_lt (lt_of_le_of_ne h.le hne)
    exact hs before b later rfl hl
  · rintro heq before b later rfl hl
    have hbefore := h.of_append.le
    have hlater := hl.le
    have hsum : pops before + pops later = pushes before + (pushes later + 1) := by simpa using heq
    omega

/-- **Covered changes** touch the innermost scope at most, and above it stand as many scopes as they
open and do not close. -/
lemma opened_changed (s : Scopes) (h : Covered cs) :
    ∃ n, n + pops cs = pushes cs ∧ Opened s .statement n (s.changed cs) := by
  induction cs using List.reverseRecOn with
  | nil => exact ⟨0, rfl, .start s _⟩
  | append_singleton cs c ih =>
      obtain ⟨hcs, hpop⟩ := covered_concat.mp h
      obtain ⟨n, hn, ho⟩ := ih hcs
      rw [changed_concat]
      cases c with
      | push b => exact ⟨n + 1, by simp; omega, ho.push b⟩
      | pop =>
          have hlt := hpop rfl
          obtain ⟨k, rfl⟩ := Nat.exists_eq_add_one_of_ne_zero (show n ≠ 0 by omega)
          obtain ⟨s', hs', ho⟩ := ho.pop
          rw [change_pop_of_some hs']
          exact ⟨k, by simp; omega, ho⟩
      | define name value => exact ⟨n, by simpa using hn, ho.define (fun _ => rfl) name value⟩

/-- **Balanced changes inside a new scope** leave it as the only one to close. -/
lemma Balanced.pop?_changed (h : Balanced cs) (s : Scopes) (b : Table Value) :
    ((s.push b).changed cs).pop? = some s := by
  obtain ⟨n, hn, ho⟩ := opened_changed (s.push b) h.covered
  obtain rfl : n = 0 := by
    have := h.even
    omega
  rw [pop?, ho.finish.1]
  rfl

end

end Scopes

end LessonLang
