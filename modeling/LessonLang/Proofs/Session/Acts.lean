import Mathlib.Tactic
import LessonLang.Session

/-!
Interleavings of a program and its host.

* `Session.Does` lists what can happen in a session at one moment, with what it takes and what
  becomes of the session. Every act is one of these (`Session.does_of_act`).
* `Session.Runs` strings acts together in any order: the acts of the program, of any number of
  calls that provide an answer, and of a host that receives and cancels.
* `Notice.during` is what is noticed while a number of prompts have been asked; it says to which
  prompt an answer belongs.
-/

namespace LessonLang

/-! ### Acts -/

namespace Session

/-- **What can happen** in a session at one moment. -/
inductive Does (s : Session) : Session → List Notice → Prop where
  | halt (hp : s.phase = .running) (hm : s.machine.step s.limit s.cancelled = .halt) :
      Does s { s with phase := .stopped s.machine.failure?, waiting := false } []
  | next {m : Machine} (hp : s.phase = .running)
      (hm : s.machine.step s.limit s.cancelled = .next m) : Does s { s with machine := m } []
  | emit {text : Text} {m : Machine} (hp : s.phase = .running)
      (hm : s.machine.step s.limit s.cancelled = .emit text m) :
      Does s { s with machine := m, phase := .printing text } []
  | ask {name : Text} {m : Machine} (hp : s.phase = .running)
      (hm : s.machine.step s.limit s.cancelled = .ask name m) :
      Does s { s with machine := m, phase := .prompting name, waiting := true } [.asked]
  | print {text : Text} (hp : s.phase = .printing text) :
      Does s { s with buffer := s.buffer ++ [.output text], phase := .running } []
  | prompt {name : Text} (hp : s.phase = .prompting name) :
      Does s
        { s with buffer := s.buffer ++ [.prompt (promptText name)], phase := .awaiting name } []
  | take {name text : Text} (hp : s.phase = .awaiting name) (hslot : s.slot = some text) :
      Does s { s with slot := none, phase := .answered (.ok text) } [.answered text]
  | close {a : Machine.Answer} (hp : s.phase = .answered a) :
      Does s { s with phase := .resuming a, waiting := false } []
  | resume {a : Machine.Answer} (hp : s.phase = .resuming a) :
      Does s { s with machine := s.machine.answer s.cancelled a, phase := .running } []
  | shut {f : Option Failure} (hp : s.phase = .stopped f) :
      Does s { s with phase := .closed f, cancelled := true } []
  | finish {f : Option Failure} (hp : s.phase = .closed f) : Does s { s with phase := .ended f } []
  | drop {text : Text} (hp : s.phase = .printing text) (hc : s.cancelled = true) :
      Does s { s with phase := .running } []
  | abandon (hp : (∃ name, s.phase = .prompting name) ∨ ∃ name, s.phase = .awaiting name)
      (hc : s.cancelled = true) : Does s { s with phase := .answered (.error .canceled) } []
  | accept {text : Text} (hw : s.waiting = true) :
      Does s { s with waiting := false, offers := text :: s.offers } [.accepted text]
  | refuse {text : Text} (hw : s.waiting = false) : Does s s [.refused text]
  | deliver {n : Nat} {text : Text} (ho : s.offers[n]? = some text) (hslot : s.slot = none) :
      Does s { s with offers := s.offers.eraseIdx n, slot := some text } [.delivered]
  | withdraw {n : Nat} {f : Option Failure} (hp : s.phase = .ended f) (hn : n < s.offers.length) :
      Does s { s with offers := s.offers.eraseIdx n } [.withdrawn]
  | receive {e : Event} {rest : List Event} (hb : s.buffer = e :: rest) :
      Does s { s with buffer := rest } [.received e]
  | cancel : Does s { s with cancelled := true } [.cancelled]

lemma does_of_work {s s' : Session} {ms : List Notice} (h : s.work = some (s', ms)) :
    Does s s' ms := by
  rw [work] at h
  split at h
  next hp =>
    split at h
    all_goals
      rename_i hm
      obtain ⟨rfl, rfl⟩ := Prod.mk.inj (Option.some.inj h)
    · exact .halt hp hm
    · exact .next hp hm
    · exact .emit hp hm
    · exact .ask hp hm
  next hp =>
    rw [write] at h
    split_ifs at h
    · obtain ⟨rfl, rfl⟩ := Prod.mk.inj (Option.some.inj h)
      exact .print hp
    · exact absurd h (by simp)
  next hp =>
    rw [write] at h
    split_ifs at h
    · obtain ⟨rfl, rfl⟩ := Prod.mk.inj (Option.some.inj h)
      exact .prompt hp
    · exact absurd h (by simp)
  next hp =>
    obtain ⟨text, hslot, heq⟩ := Option.map_eq_some_iff.mp h
    obtain ⟨rfl, rfl⟩ := Prod.mk.inj heq
    exact .take hp hslot
  next hp =>
    obtain ⟨rfl, rfl⟩ := Prod.mk.inj (Option.some.inj h)
    exact .close hp
  next hp =>
    obtain ⟨rfl, rfl⟩ := Prod.mk.inj (Option.some.inj h)
    exact .resume hp
  next hp =>
    obtain ⟨rfl, rfl⟩ := Prod.mk.inj (Option.some.inj h)
    exact .shut hp
  next hp =>
    obtain ⟨rfl, rfl⟩ := Prod.mk.inj (Option.some.inj h)
    exact .finish hp
  next => exact absurd h (by simp)

lemma does_of_quit {s s' : Session} (h : s.quit = some s') : Does s s' [] := by
  rw [quit] at h
  split_ifs at h with hc
  split at h
  next hp =>
    obtain rfl := Option.some.inj h
    exact .drop hp hc
  next hp =>
    obtain rfl := Option.some.inj h
    exact .abandon (Or.inl ⟨_, hp⟩) hc
  next hp =>
    obtain rfl := Option.some.inj h
    exact .abandon (Or.inr ⟨_, hp⟩) hc
  next => exact absurd h (by simp)

/-- **Every act** is one of the things that can happen. -/
lemma does_of_act {s s' : Session} {a : Act} {ms : List Notice} (h : s.act a = some (s', ms)) :
    Does s s' ms := by
  cases a with
  | work => exact does_of_work h
  | quit =>
      obtain ⟨s₁, hq, heq⟩ := Option.map_eq_some_iff.mp h
      obtain ⟨rfl, rfl⟩ := Prod.mk.inj heq
      exact does_of_quit hq
  | provide text =>
      rw [act, accept] at h
      split_ifs at h with hw
      · obtain ⟨rfl, rfl⟩ := Prod.mk.inj (Option.some.inj h)
        exact .accept hw
      · obtain ⟨rfl, rfl⟩ := Prod.mk.inj (Option.some.inj h)
        exact .refuse (Bool.eq_false_iff.mpr hw)
  | deliver n =>
      obtain ⟨s₁, hd, heq⟩ := Option.map_eq_some_iff.mp h
      obtain ⟨rfl, rfl⟩ := Prod.mk.inj heq
      rw [deliver] at hd
      split at hd
      next ho hslot =>
        obtain rfl := Option.some.inj hd
        exact .deliver ho hslot
      next => exact absurd hd (by simp)
  | withdraw n =>
      obtain ⟨s₁, hd, heq⟩ := Option.map_eq_some_iff.mp h
      obtain ⟨rfl, rfl⟩ := Prod.mk.inj heq
      rw [withdraw] at hd
      split at hd
      next hp =>
        split_ifs at hd with hn
        obtain rfl := Option.some.inj hd
        exact .withdraw hp hn
      next => exact absurd hd (by simp)
  | receive =>
      rw [act, receive] at h
      cases hb : s.buffer with
      | nil =>
          rw [hb] at h
          dsimp only at h
          split at h
          next heq => split at heq <;> simp at heq
          next => exact absurd h (by simp)
      | cons e rest =>
          rw [hb] at h
          obtain ⟨rfl, rfl⟩ := Prod.mk.inj (Option.some.inj h)
          exact .receive hb
  | cancel =>
      obtain ⟨rfl, rfl⟩ := Prod.mk.inj (Option.some.inj h)
      exact .cancel

/-! ### Interleavings -/

/-- **Acts in any order** lead from one session to another; `ns` is what is noticed on the way. -/
inductive Runs (s : Session) : List Notice → Session → Prop where
  | refl : Runs s [] s
  | act {ns ms : List Notice} {s₁ s₂ : Session} {a : Act} (h : Runs s ns s₁)
      (ha : s₁.act a = some (s₂, ms)) : Runs s (ns ++ ms) s₂

lemma Runs.trans {s s₁ s₂ : Session} {ns ms : List Notice} (h : Runs s ns s₁) (h' : Runs s₁ ms s₂) :
    Runs s (ns ++ ms) s₂ := by
  induction h' with
  | refl => rwa [List.append_nil]
  | act _ ha ih =>
      rw [← List.append_assoc]
      exact ih.act ha

/-- What everything that can happen keeps, holds at every moment. -/
lemma Runs.invariant {P : List Notice → Session → Prop} {s s' : Session} {ns : List Notice}
    (h : Runs s ns s') (hstart : P [] s)
    (hstep : ∀ ns s₁ ms s₂, P ns s₁ → Does s₁ s₂ ms → P (ns ++ ms) s₂) : P ns s' := by
  induction h with
  | refl => exact hstart
  | act _ ha ih => exact hstep _ _ _ _ ih (does_of_act ha)

/-- Carries out acts in the given order, if each of them is possible. -/
def follow (s : Session) : List Act → Option (Session × List Notice)
  | [] => some (s, [])
  | a :: as => do
    let (s₁, ms) ← s.act a
    let (s₂, ns) ← s₁.follow as
    return (s₂, ms ++ ns)

lemma Runs.follow {s s₁ s₂ : Session} {ns ms : List Notice} {as : List Act} (h : Runs s ns s₁)
    (hf : s₁.follow as = some (s₂, ms)) : Runs s (ns ++ ms) s₂ := by
  induction as generalizing ns ms s₁ with
  | nil =>
      obtain ⟨rfl, rfl⟩ := Prod.mk.inj (Option.some.inj hf)
      rwa [List.append_nil]
  | cons a as ih =>
      rw [Session.follow] at hf
      obtain ⟨⟨s', ns'⟩, ha, hf⟩ := Option.bind_eq_some_iff.mp hf
      obtain ⟨⟨s'', ns''⟩, hrest, hf⟩ := Option.bind_eq_some_iff.mp hf
      obtain ⟨rfl, rfl⟩ := Prod.mk.inj (Option.some.inj hf)
      rw [← List.append_assoc]
      exact ih (h.act ha) hrest

end Session

/-! ### Notices -/

namespace Notice

/-- What is noticed while `k` prompts have been asked: behind the `k`-th one and before the next. -/
def during : Nat → List Notice → List Notice
  | _, [] => []
  | 0, .asked :: _ => []
  | k + 1, .asked :: ns => during k ns
  | 0, n :: ns => n :: during 0 ns
  | k + 1, _ :: ns => during (k + 1) ns

/-- The answers that were accepted, in order. -/
def acceptances (ns : List Notice) : List Text :=
  ns.filterMap fun
    | accepted text => some text
    | _ => none

/-- The answers that the program took, in order. -/
def answers (ns : List Notice) : List Text :=
  ns.filterMap fun
    | answered text => some text
    | _ => none

/-- The events that the host received, in order. -/
def receipts (ns : List Notice) : List Event :=
  ns.filterMap fun
    | received e => some e
    | _ => none

/-- A notice belongs to the prompt that was asked last. -/
lemma during_snoc (k : Nat) (ns : List Notice) {n : Notice} (hn : n ≠ .asked) :
    during k (ns ++ [n]) = if ns.count .asked = k then during k ns ++ [n] else during k ns := by
  fun_induction during k ns with
  | case1 k =>
      cases k with
      | zero => cases n <;> simp_all [during]
      | succ k => cases n <;> simp_all [during]
  | case2 ns => simp [during]
  | case3 k ns ih => simp [during, ih]
  | case4 m ns hm ih =>
      rw [List.cons_append, during, ih, List.count_cons_of_ne hm]
      · split_ifs <;> simp
      · exact hm
  | case5 k m ns hm ih =>
      rw [List.cons_append, during, ih, List.count_cons_of_ne hm]
      exact hm

/-- A new prompt ends the time of the one before it. -/
lemma during_snoc_asked (k : Nat) (ns : List Notice) : during k (ns ++ [.asked]) = during k ns := by
  fun_induction during k ns with
  | case1 k => cases k <;> rfl
  | case2 ns => rfl
  | case3 k ns ih => exact ih
  | case4 m ns hm ih =>
      rw [List.cons_append, during, ih]
      exact hm
  | case5 k m ns hm ih =>
      rw [List.cons_append, during, ih]
      exact hm

/-- Nothing is noticed of a prompt that has not been asked. -/
lemma during_of_count_lt {k : Nat} {ns : List Notice} (hk : ns.count .asked < k) :
    during k ns = [] := by
  fun_induction during k ns with
  | case1 k => rfl
  | case2 ns => rfl
  | case3 k ns ih => exact ih (by simpa using hk)
  | case4 m ns hm ih => exact absurd hk (by simp)
  | case5 k m ns hm ih => exact ih (by rwa [List.count_cons_of_ne hm] at hk)

end Notice

end LessonLang
