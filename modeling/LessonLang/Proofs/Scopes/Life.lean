import LessonLang.Proofs.Scopes

/-!
The lives of scopes.

* A `Scopes.Life` is a scope seen from its history: the bindings it was opened with, and the changes
  since then. `Life.Present` and `Life.Gives` say of it, by counting in the history alone, whether
  it is still there and which value it gave to a name last.
* `Life.Present.settled_iff` says which scope is the innermost one, and `Life.present_concat` what a
  change does to those that are present.
* The invariant is `Scopes.Tracks`: the tables on the stack are those of the lives that are present,
  from the inside out. Every change keeps it (`Tracks.change`).
* `Scopes.LastGiven` is the value that the innermost of some scopes gives a name, and
  `Tracks.lookup?_eq_some_iff` says that lookups find it.
-/

namespace LessonLang

namespace Scopes

/-! ### Lives -/

/-- **The life of a scope**: the bindings it was opened with, and all changes since then. -/
structure Life where
  seed : Table Value
  since : List Change

namespace Life

/-- **The scopes that are present** after a history: the global one, which was there from the
beginning, and every one that was opened and behind whose opening no more scopes are closed than
opened. -/
def Present (l : Life) (history : List Change) : Prop :=
  l = ⟨[], history⟩ ∨ Covered l.since ∧ ∃ before, history = before ++ .push l.seed :: l.since

/-- The life of a scope binds a name: after the changes `cs` the scope is the innermost one, and the
next change binds the name. -/
def Binds (l : Life) (cs : List Change) (name : Text) (value : Value) : Prop :=
  Settled cs ∧ cs ++ [.define name value] <+: l.since

/-- **The last value that was given to a name in a scope**, by a definition or else by the bindings
the scope was opened with. -/
def Gives (l : Life) (name : Text) (value : Value) : Prop :=
  (∃ cs, l.Binds cs name value ∧ ∀ cs' value', l.Binds cs' name value' → cs'.length ≤ cs.length)
    ∨ l.seed.get? name = some value ∧ ∀ cs value', ¬l.Binds cs name value'

/-- A life that goes on with one more change. -/
def extend (l : Life) (c : Change) : Life := ⟨l.seed, l.since ++ [c]⟩

/-! What a change gives to names -/

section

variable {l : Life} {cs : List Change} {c : Change} {name : Text} {value : Value}

lemma Binds.length_lt (h : l.Binds cs name value) : cs.length < l.since.length := by
  have hlen := h.2.length_le
  rwa [List.length_append, List.length_singleton] at hlen

lemma binds_extend :
    (l.extend c).Binds cs name value
      ↔ l.Binds cs name value ∨ Settled l.since ∧ cs = l.since ∧ c = .define name value := by
  rw [Binds, extend, List.prefix_concat_iff, List.append_singleton_inj, Binds]
  constructor
  · rintro ⟨hs, ⟨rfl, rfl⟩ | hp⟩
    · exact .inr ⟨hs, rfl, rfl⟩
    · exact .inl ⟨hs, hp⟩
  · rintro (⟨hs, hp⟩ | ⟨hs, rfl, rfl⟩)
    · exact ⟨hs, .inr hp⟩
    · exact ⟨hs, .inl ⟨rfl, rfl⟩⟩

/-- A scope that has just been opened gives what it was opened with. -/
lemma gives_new {b : Table Value} :
    (⟨b, []⟩ : Life).Gives name value ↔ b.get? name = some value := by
  have hnone : ∀ cs value', ¬(⟨b, []⟩ : Life).Binds cs name value' :=
    fun cs value' h => Nat.not_lt_zero _ h.length_lt
  constructor
  · rintro (⟨cs, h, -⟩ | ⟨h, -⟩)
    · exact absurd h (hnone cs value)
    · exact h
  · exact fun h => .inr ⟨h, hnone⟩

/-- A change that does not bind the name in the scope leaves its value there alone. -/
lemma gives_extend (h : ∀ value', Settled l.since → c ≠ .define name value') :
    (l.extend c).Gives name value ↔ l.Gives name value := by
  have hbinds : ∀ cs value', (l.extend c).Binds cs name value' ↔ l.Binds cs name value' := by
    intro cs value'
    rw [binds_extend, or_iff_left]
    rintro ⟨hs, -, hc⟩
    exact h value' hs hc
  simp only [Gives, hbinds]
  rfl

/-- A definition in the innermost scope counts there from now on. -/
lemma gives_extend_define {value' : Value} (hs : Settled l.since) :
    (l.extend (.define name value)).Gives name value' ↔ value = value' := by
  have hlast : (l.extend (.define name value)).Binds l.since name value :=
    binds_extend.mpr (.inr ⟨hs, rfl, rfl⟩)
  constructor
  · rintro (⟨cs, h, hmax⟩ | ⟨-, h⟩)
    · obtain h | ⟨-, -, hc⟩ := binds_extend.mp h
      · exact absurd h.length_lt (Nat.not_lt.mpr (hmax _ _ hlast))
      · exact (Change.define.inj hc).2
    · exact absurd hlast (h _ _)
  · rintro rfl
    refine .inl ⟨l.since, hlast, fun cs' value' h => Nat.le_of_lt_succ ?_⟩
    simpa [extend] using h.length_lt

end

/-! Which scopes are present -/

section

variable {l l' : Life} {history : List Change} {c : Change}

lemma present_global (history : List Change) : (⟨[], history⟩ : Life).Present history := .inl rfl

lemma Present.suffix (h : l.Present history) : l.since <:+ history := by
  obtain rfl | ⟨-, before, rfl⟩ := h
  · exact List.suffix_rfl
  · exact ⟨before ++ [.push l.seed], by simp⟩

/-- What was opened in the life of a scope and is still there is present. -/
lemma Present.later (h : l.Present history) {before later : List Change} {b : Table Value}
    (hl : l.since = before ++ .push b :: later) (hlater : Covered later) :
    (⟨b, later⟩ : Life).Present history := by
  obtain ⟨earlier, rfl⟩ := h.suffix
  exact .inr ⟨hlater, earlier ++ before, by simp [hl]⟩

/-- A present scope that has a longer life than another one is not the first to be closed. -/
lemma Present.not_settled (h : l.Present history) (h' : l'.Present history)
    (hlt : l.since.length < l'.since.length) : ¬Settled l'.since := by
  obtain rfl | ⟨hl, before, hbefore⟩ := h
  · exact absurd h'.suffix.length_le (Nat.not_le.mpr hlt)
  · -- the opening of the scope with the shorter life lies in the longer one
    have hsuffix : .push l.seed :: l.since <:+ history := ⟨before, hbefore.symm⟩
    obtain ⟨p, hp⟩ := List.suffix_of_suffix_length_le hsuffix h'.suffix hlt
    exact fun hs => hs p l.seed l.since hp.symm hl

/-- **The innermost scope** is the one that is present with the shortest life. -/
lemma Present.settled_iff (h : l.Present history) :
    Settled l.since ↔ ∀ l' : Life, l'.Present history → l.since.length ≤ l'.since.length := by
  constructor
  · intro hs l' h'
    by_contra hlt
    exact h'.not_settled h (Nat.not_le.mp hlt) hs
  · intro hmin before b later hl hlater
    have hle : l.since.length ≤ later.length := hmin _ (h.later hl hlater)
    rw [hl, List.length_append, List.length_cons] at hle
    omega

/-- **What a change does to the scopes that are present**: a new one is there, or the innermost one
is gone unless it is the global one. The others live on. -/
lemma present_concat :
    l.Present (history ++ [c])
      ↔ (∃ b, c = .push b ∧ l = ⟨b, []⟩)
        ∨ ∃ l₀ : Life, l₀.Present history ∧ l = l₀.extend c
          ∧ (c = .pop → l₀ = ⟨[], history⟩ ∨ ¬Settled l₀.since) := by
  constructor
  · rintro (rfl | ⟨hl, before, hbefore⟩)
    · exact .inr ⟨⟨[], history⟩, present_global history, rfl, fun _ => .inl rfl⟩
    · obtain ⟨seed, since⟩ := l
      obtain rfl | ⟨cs, d, rfl⟩ := List.eq_nil_or_concat' since
      · obtain ⟨-, rfl⟩ := List.append_singleton_inj.mp hbefore
        exact .inl ⟨seed, rfl, rfl⟩
      · rw [← List.cons_append, ← List.append_assoc] at hbefore
        obtain ⟨rfl, rfl⟩ := List.append_singleton_inj.mp hbefore
        obtain ⟨hcs, hpop⟩ := covered_concat.mp hl
        refine .inr ⟨⟨seed, cs⟩, .inr ⟨hcs, before, rfl⟩, rfl, fun hc => .inr ?_⟩
        rw [hcs.settled_iff]
        exact (hpop hc).ne
  · rintro (⟨b, rfl, rfl⟩ | ⟨l₀, h | ⟨hl, before, rfl⟩, rfl, hpop⟩)
    · exact .inr ⟨covered_nil, history, rfl⟩
    · rw [h]
      exact present_global _
    · refine .inr ⟨covered_concat.mpr ⟨hl, fun hc => ?_⟩, before, by simp [extend]⟩
      obtain h | hs := hpop hc
      · -- the global scope was not opened, so its life is not that of an opened one
        have hlen : l₀.since.length = (before ++ .push l₀.seed :: l₀.since).length :=
          congrArg (fun l : Life => l.since.length) h
        rw [List.length_append, List.length_cons] at hlen
        omega
      · rw [hl.settled_iff] at hs
        exact lt_of_le_of_ne hl.le hs

end

end Life

/-! ### The invariant -/

/-- A table binds a name to the value that a life gave it. -/
def Holds (t : Table Value) (l : Life) : Prop :=
  ∀ name value, t.get? name = some value ↔ l.Gives name value

/-- **Scopes with a history**: their tables hold what the scopes that are present gave, one table
for each, and those that live shorter are further inside. -/
structure Tracks (s : Scopes) (history : List Change) (lives : List Life) : Prop where
  present : ∀ l, l ∈ lives ↔ l.Present history
  inward : lives.Pairwise fun l l' => l.since.length < l'.since.length
  holds : List.Forall₂ Holds s.tables lives

section

variable {s : Scopes} {t : Table Value} {l : Life} {c : Change} {history : List Change}
  {lives : List Life}

lemma Holds.extend (h : Holds t l)
    (hc : ∀ name value, Settled l.since → c ≠ .define name value) : Holds t (l.extend c) := by
  intro name value
  rw [h name value, Life.gives_extend (hc name)]

lemma Holds.define (h : Holds t l) (hs : Settled l.since) (name : Text) (value : Value) :
    Holds (t.set name value) (l.extend (.define name value)) := by
  intro name' value'
  rw [Table.get?_set]
  split_ifs with hname
  · obtain rfl := eq_of_beq hname
    rw [Life.gives_extend_define hs, Option.some_inj]
  · rw [h name' value', Life.gives_extend]
    rintro value'' - hc
    exact hname (beq_iff_eq.mpr (Change.define.inj hc).1.symm)

/-- Lives that go on keep what they hold if the change binds nothing in them. -/
lemma holds_extend {ts : List (Table Value)} (h : List.Forall₂ Holds ts lives)
    (hc : ∀ l ∈ lives, ∀ name value, Settled l.since → c ≠ .define name value) :
    List.Forall₂ Holds ts (lives.map (·.extend c)) := by
  induction h with
  | nil => exact .nil
  | cons h _ ih =>
      obtain ⟨hl, hlives⟩ := List.forall_mem_cons.mp hc
      exact .cons (h.extend hl) (ih hlives)

lemma inward_extend
    (h : lives.Pairwise fun l l' => l.since.length < l'.since.length) (c : Change) :
    (lives.map (·.extend c)).Pairwise fun l l' => l.since.length < l'.since.length := by
  refine List.pairwise_map.mpr (h.imp fun hlt => ?_)
  simpa [Life.extend] using hlt

namespace Tracks

lemma start : Tracks empty [] [⟨[], []⟩] where
  present l := by
    rw [List.mem_singleton, Life.Present, iff_self_or]
    rintro ⟨-, before, h⟩
    simp at h
  inward := List.pairwise_singleton _ _
  holds := .cons (fun _ _ => Life.gives_new.symm) .nil

/-- The first life is that of the innermost scope. -/
lemma settled (h : Tracks s history (l :: lives)) :
    Settled l.since ∧ ∀ l' ∈ lives, ¬Settled l'.since := by
  have hl := (h.present l).mp List.mem_cons_self
  have hlt := (List.pairwise_cons.mp h.inward).1
  constructor
  · rw [hl.settled_iff]
    intro l' h'
    obtain rfl | h' := List.mem_cons.mp ((h.present l').mpr h')
    · exact le_rfl
    · exact (hlt l' h').le
  · intro l' h'
    exact hl.not_settled ((h.present l').mp (List.mem_cons_of_mem l h')) (hlt l' h')

lemma push (h : Tracks s history lives) (b : Table Value) :
    Tracks (s.push b) (history ++ [.push b]) (⟨b, []⟩ :: lives.map (·.extend (.push b))) where
  present l := by
    simp [Life.present_concat, h.present, eq_comm]
  inward := by
    refine List.pairwise_cons.mpr ⟨fun l hl => ?_, inward_extend h.inward _⟩
    obtain ⟨l, -, rfl⟩ := List.mem_map.mp hl
    simp [Life.extend]
  holds := .cons (fun _ _ => Life.gives_new.symm) (holds_extend h.holds (by simp))

lemma define (h : Tracks s history lives) (name : Text) (value : Value) :
    Tracks (s.define name value) (history ++ [.define name value])
      (lives.map (·.extend (.define name value))) where
  present l := by
    simp [Life.present_concat, h.present, eq_comm]
  inward := inward_extend h.inward _
  holds := by
    cases lives with
    | nil => exact absurd h.holds (by simp [tables])
    | cons l lives =>
        obtain ⟨hs, hrest⟩ := h.settled
        obtain ⟨hl, hlives⟩ := List.forall₂_cons.mp h.holds
        refine .cons (hl.define hs name value) (holds_extend hlives ?_)
        exact fun l' hl' _ _ hs' => absurd hs' (hrest l' hl')

/-- The global scope is the last one. -/
lemma eq_global (h : Tracks s history [l]) : l = ⟨[], history⟩ :=
  (List.mem_singleton.mp ((h.present _).mpr (Life.present_global history))).symm

lemma popGlobal (h : Tracks s history [l]) :
    Tracks s (history ++ [.pop]) [l.extend .pop] where
  present l' := by
    obtain rfl := h.eq_global
    simp only [Life.present_concat, ← h.present, List.mem_singleton]
    simp
  inward := List.pairwise_singleton _ _
  holds := holds_extend h.holds (by simp)

lemma pop {l' : Life} (h : Tracks s history (l :: l' :: lives)) {s' : Scopes}
    (hs' : s.pop? = some s') :
    Tracks s' (history ++ [.pop]) ((l' :: lives).map (·.extend .pop)) where
  present m := by
    obtain ⟨hs, hrest⟩ := h.settled
    rw [Life.present_concat, List.mem_map]
    constructor
    · rintro ⟨l₀, hl₀, rfl⟩
      have hpresent := (h.present l₀).mp (List.mem_cons_of_mem l hl₀)
      exact .inr ⟨l₀, hpresent, rfl, fun _ => .inr (hrest l₀ hl₀)⟩
    · rintro (⟨b, hb, -⟩ | ⟨l₀, hl₀, rfl, hpop⟩)
      · exact absurd hb (by simp)
      · refine ⟨l₀, ?_, rfl⟩
        obtain rfl | hmem := List.mem_cons.mp ((h.present l₀).mpr hl₀)
        · -- the innermost scope is not the global one, since another one is around it
          have hl' := (h.present l').mp (List.mem_cons_of_mem _ List.mem_cons_self)
          have hlt := (List.pairwise_cons.mp h.inward).1 l' List.mem_cons_self
          obtain rfl | hnot := hpop rfl
          · exact absurd hl'.suffix.length_le (Nat.not_le.mpr hlt)
          · exact absurd hs hnot
        · exact hmem
  inward := inward_extend (List.pairwise_cons.mp h.inward).2 _
  holds := by
    have hholds := (List.forall₂_cons.mp h.holds).2
    rw [outer_of_pop? hs'] at hholds
    exact holds_extend hholds (by simp)

/-- **Every change keeps the invariant.** -/
lemma change (h : Tracks s history lives) (c : Change) :
    ∃ lives', Tracks (s.change c) (history ++ [c]) lives' := by
  cases c with
  | push b => exact ⟨_, h.push b⟩
  | define name value => exact ⟨_, h.define name value⟩
  | pop =>
      have hholds := h.holds
      rw [tables] at hholds
      cases hs : s.pop? with
      | none =>
          rw [pop?_eq_none_iff.mp hs] at hholds
          obtain ⟨l, _, -, hnil, rfl⟩ := List.forall₂_cons_left_iff.mp hholds
          obtain rfl := List.forall₂_nil_left_iff.mp hnil
          rw [change_pop_of_none hs]
          exact ⟨_, h.popGlobal⟩
      | some s' =>
          rw [outer_of_pop? hs, tables] at hholds
          obtain ⟨l, _, -, hrest, rfl⟩ := List.forall₂_cons_left_iff.mp hholds
          obtain ⟨l', _, -, -, rfl⟩ := List.forall₂_cons_left_iff.mp hrest
          rw [change_pop_of_some hs]
          exact ⟨_, h.pop hs⟩

end Tracks

/-- What a history leads to is tracked by it. -/
lemma exists_tracks (history : List Change) : ∃ lives, Tracks (after history) history lives := by
  induction history using List.reverseRecOn with
  | nil => exact ⟨_, .start⟩
  | append_singleton history c ih =>
      obtain ⟨lives, h⟩ := ih
      rw [after, changed_concat]
      exact h.change c

end

/-! ### What lookups find -/

/-- **The value that a name was given last**, in the innermost of some scopes that binds it: no
scope with a shorter life gives the name anything. -/
def LastGiven (lives : Set Life) (name : Text) (value : Value) : Prop :=
  ∃ l ∈ lives, l.Gives name value
    ∧ ∀ l' ∈ lives, l'.since.length < l.since.length → ∀ value', ¬l'.Gives name value'

section

variable {s : Scopes} {l : Life} {history : List Change} {lives : List Life} {name : Text}
  {value : Value}

/-- What is given furthest inside hides the rest. -/
lemma lastGiven_cons_of_gives {found : Value}
    (hfirst : ∀ l' ∈ lives, l.since.length < l'.since.length) (hfound : l.Gives name found) :
    LastGiven {l' | l' ∈ l :: lives} name value ↔ l.Gives name value := by
  constructor
  · rintro ⟨l₀, hl₀, hgives, hinner⟩
    obtain rfl | hl₀ := List.mem_cons.mp hl₀
    · exact hgives
    · exact absurd hfound (hinner l List.mem_cons_self (hfirst l₀ hl₀) found)
  · intro hgives
    refine ⟨l, List.mem_cons_self, hgives, fun l' hl' hlt => ?_⟩
    obtain rfl | hl' := List.mem_cons.mp hl'
    · exact absurd hlt (Nat.lt_irrefl _)
    · exact absurd hlt (hfirst l' hl').asymm

/-- A scope that does not bind the name is passed over. -/
lemma lastGiven_cons_of_silent (hsilent : ∀ value', ¬l.Gives name value') :
    LastGiven {l' | l' ∈ l :: lives} name value ↔ LastGiven {l' | l' ∈ lives} name value := by
  constructor
  · rintro ⟨l₀, hl₀, hgives, hinner⟩
    obtain rfl | hl₀ := List.mem_cons.mp hl₀
    · exact absurd hgives (hsilent value)
    · exact ⟨l₀, hl₀, hgives, fun l' hl' => hinner l' (List.mem_cons_of_mem l hl')⟩
  · rintro ⟨l₀, hl₀, hgives, hinner⟩
    refine ⟨l₀, List.mem_cons_of_mem l hl₀, hgives, fun l' hl' hlt => ?_⟩
    obtain rfl | hl' := List.mem_cons.mp hl'
    · exact hsilent
    · exact hinner l' hl' hlt

/-- The first table that binds a name holds what it was given last. -/
lemma findSome?_eq_some_iff {ts : List (Table Value)} (h : List.Forall₂ Holds ts lives)
    (hin : lives.Pairwise fun l l' => l.since.length < l'.since.length) :
    (ts.findSome? fun t => t.get? name) = some value
      ↔ LastGiven {l | l ∈ lives} name value := by
  induction h with
  | nil => simp [LastGiven]
  | @cons t l ts lives hl _ ih =>
      obtain ⟨hfirst, hin⟩ := List.pairwise_cons.mp hin
      rw [List.findSome?_cons]
      cases ht : t.get? name with
      | some found =>
          rw [lastGiven_cons_of_gives hfirst ((hl name found).mp ht), ← hl name value, ht]
      | none =>
          rw [lastGiven_cons_of_silent, ih hin]
          intro value' hgives
          exact absurd (ht.symm.trans ((hl name value').mpr hgives)) (by simp)

namespace Tracks

lemma present_eq (h : Tracks s history lives) :
    {l | l ∈ lives} = {l : Life | l.Present history} := Set.ext h.present

lemma lookup?_eq_some_iff (h : Tracks s history lives) :
    s.lookup? name = some value ↔ LastGiven {l | l.Present history} name value := by
  rw [lookup?, ← tables, findSome?_eq_some_iff h.holds h.inward, h.present_eq]

/-- There are as many scopes as are present in the history. -/
lemma depth_eq (h : Tracks s history lives) : s.depth = {l : Life | l.Present history}.ncard := by
  classical
  have hnodup : lives.Nodup := h.inward.imp fun hlt heq => absurd hlt (by simp [heq])
  have hlength : s.depth = lives.length := h.holds.length_eq
  rw [hlength, ← h.present_eq, ← List.toFinset_card_of_nodup hnodup, ← Set.ncard_coe_finset,
    List.coe_toFinset]

end Tracks

end

/-- **Balanced changes restore the scopes.** After every history there is a scope, and there are as
many as are present by the count of openings and closings alone. Closing the last one fails, and
nothing that comes later can tell that it was tried. What is opened and then changed by balanced
changes is closed by the next closing, and all scopes are back as they were. After every history,
and so also on the way through such changes, a lookup finds the value that was given last to the
name in the innermost scope that is present and binds it. -/
theorem balanced_restores (history : List Change) :
    1 ≤ (after history).depth
    ∧ (after history).depth = {l : Life | l.Present history}.ncard
    ∧ ((after history).pop? = none ↔ (after history).depth = 1)
    ∧ ((after history).pop? = none → ∀ cs, after (history ++ .pop :: cs) = after (history ++ cs))
    ∧ (∀ b cs, Balanced cs → (after (history ++ .push b :: cs)).pop? = some (after history))
    ∧ ∀ name value, (after history).lookup? name = some value
        ↔ LastGiven {l | l.Present history} name value := by
  obtain ⟨lives, h⟩ := exists_tracks history
  refine ⟨Nat.le_add_left 1 _, h.depth_eq, ?_, ?_, ?_, fun _ _ => h.lookup?_eq_some_iff⟩
  · rw [pop?_eq_none_iff, depth, Nat.add_eq_right, List.length_eq_zero_iff]
  · intro hpop cs
    rw [after_append, after_append, changed, List.foldl_cons, change_pop_of_none hpop, changed]
  · intro b cs hcs
    rw [after_append]
    exact hcs.pop?_changed _ b

/-- The attempt to close the global scope, and a global variable. -/
def hiddenHistory : List Change := [.pop, .define [0x78] (.bool false)]

/-- Balanced changes that bind the name of the variable anew, and once more in a scope of their
own. -/
def hidingChanges : List Change :=
  [.define [0x78] (.bool true), .push [([0x79], .undefined)], .define [0x78] .undefined, .pop]

/-- The variable is hidden while the scope of these changes is open, and is back when it is
closed. -/
theorem balanced_restores_hidden :
    (after hiddenHistory).pop? = none
    ∧ after (hiddenHistory ++ .pop :: hidingChanges) = after (hiddenHistory ++ hidingChanges)
    ∧ Balanced hidingChanges
    ∧ LastGiven {l | l.Present (hiddenHistory ++ .push [] :: hidingChanges)} [0x78] (.bool true)
    ∧ (after (hiddenHistory ++ .push [] :: hidingChanges)).pop? = some (after hiddenHistory)
    ∧ LastGiven {l | l.Present hiddenHistory} [0x78] (.bool false) := by
  have hpop : (after hiddenHistory).pop? = none := rfl
  have hcs : Balanced hidingChanges := by decide
  obtain ⟨-, -, -, hfailed, hrestored, hfound⟩ := balanced_restores hiddenHistory
  obtain ⟨-, -, -, -, -, hfound'⟩ :=
    balanced_restores (hiddenHistory ++ .push [] :: hidingChanges)
  exact ⟨hpop, hfailed hpop _, hcs, (hfound' _ _).mp rfl, hrestored _ _ hcs, (hfound _ _).mp rfl⟩

end Scopes

end LessonLang
