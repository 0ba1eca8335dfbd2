import LessonLang.Proofs.Machine.Queue
import LessonLang.Proofs.Session.Acts

/-!
Prompts and their answers.

* A machine that fails does nothing but fail. So a prompt that was given up is the last one of its
  run (`Session.Orderly.quiet_of_step`).
* `Session.Orderly` is the invariant of all interleavings: as long as the run has not failed, an
  accepted answer that the program has not taken belongs to the prompt asked last, and there is
  none while that prompt is open.
* `Session.one_answer_per_prompt`: each prompt takes exactly the one answer that was accepted while
  it was open.
-/

namespace LessonLang

/-! ### Answers by prompt -/

namespace Notice

lemma acceptances_during_snoc (k : Nat) (ns : List Notice) (n : Notice) :
    acceptances (during k (ns ++ [n]))
      = acceptances (during k ns) ++ if ns.count .asked = k then acceptances [n] else [] := by
  by_cases hn : n = .asked
  · subst hn
    rw [during_snoc_asked]
    simp [acceptances]
  · rw [during_snoc k ns hn]
    split_ifs <;> simp [acceptances]

lemma answers_during_snoc (k : Nat) (ns : List Notice) (n : Notice) :
    answers (during k (ns ++ [n]))
      = answers (during k ns) ++ if ns.count .asked = k then answers [n] else [] := by
  by_cases hn : n = .asked
  · subst hn
    rw [during_snoc_asked]
    simp [answers]
  · rw [during_snoc k ns hn]
    split_ifs <;> simp [answers]

end Notice

/-! ### The invariant of all interleavings -/

/-- A prompt is being asked, and the program cannot go on without an answer. -/
def Phase.isOpen : Phase → Bool
  | .prompting _ | .awaiting _ => true
  | _ => false

/-- The machine is at a prompt. -/
def Phase.isAsking : Phase → Bool
  | .prompting _ | .awaiting _ | .answered _ | .resuming _ => true
  | _ => false

/-- The run is over. -/
def Phase.isOver : Phase → Bool
  | .stopped _ | .closed _ | .ended _ => true
  | _ => false

namespace Session

/-- The answers that were accepted and that the program has not taken. -/
def pending (s : Session) : List Text := s.offers ++ s.slot.toList

/-- No prompt is open, and the run goes on. -/
def Quiet (s : Session) : Prop :=
  match s.phase with
  | .running => s.machine.failure? = none
  | .printing _ | .answered (.ok _) | .resuming (.ok _) => True
  | _ => False

open Notice in
/-- **The invariant of all interleavings.** -/
structure Orderly (ns : List Notice) (s : Session) : Prop where
  /-- between prompts there is no answer -/
  quiet : s.Quiet → s.waiting = false ∧ s.pending = []
  /-- an open prompt has no answer yet -/
  fresh : s.waiting = true → s.pending = [] ∧ acceptances (during (ns.count .asked) ns) = []
  /-- an answer that waits is the only one, and was accepted for the prompt asked last -/
  held : ∀ text ∈ s.pending, s.pending = [text]
    ∧ acceptances (during (ns.count .asked) ns) = [text]
    ∧ answers (during (ns.count .asked) ns) = []
  /-- a prompt that is being asked can be answered, or is -/
  answerable : s.phase.isOpen = true → s.waiting = true ∨ s.pending ≠ []
  asking : s.phase.isAsking = true → ∃ name, s.machine.control = .await name
  closed : s.phase.isOver = true → s.waiting = false
  matched : ∀ k, answers (during k ns) <+: acceptances (during k ns)
  single : ∀ k, (acceptances (during k ns)).length ≤ min k 1
  delivered : ns.count .delivered + s.offers.length ≤ (acceptances ns).length
  accepted : (acceptances ns).length + s.waiting.toNat ≤ ns.count .asked

/-- Notices of which neither prompts nor answers are part. -/
def Aside (ms : List Notice) : Prop :=
  ms = [] ∨ ∃ n, ms = [n] ∧ n ≠ .asked ∧ Notice.acceptances [n] = [] ∧ Notice.answers [n] = []

namespace Orderly

open Notice

variable {ns ms : List Notice} {s s' : Session}

lemma start (i : Interpreter) (p : Option Program) : Orderly [] (Session.start i p) := by
  cases p <;> constructor <;> simp [Session.start, pending, during, acceptances, answers,
    Phase.isOpen, Phase.isAsking]

/-- **What is no part of asking and answering** keeps the invariant: accepted answers stay or are
given up, and the flag is at most cleared. -/
lemma aside (h : Orderly ns s) (hms : Aside ms)
    (hpending : s'.pending = s.pending ∨ s'.pending = [] ∧ s'.phase.isOpen = false)
    (hoffers : ms.count .delivered + s'.offers.length ≤ s.offers.length)
    (hwaiting : s'.waiting = true → s.waiting = true)
    (hquiet : s'.Quiet → s'.waiting = false ∧ s'.pending = [])
    (hopen : s'.phase.isOpen = true → s.phase.isOpen = true ∧ s'.waiting = s.waiting)
    (hasking : s'.phase.isAsking = true → ∃ name, s'.machine.control = .await name)
    (hclosed : s'.phase.isOver = true → s'.waiting = false) : Orderly (ns ++ ms) s' := by
  have hasked : (ns ++ ms).count .asked = ns.count .asked := by
    obtain rfl | ⟨n, rfl, hn, -⟩ := hms <;> simp [*]
  have hacceptances : ∀ k, acceptances (during k (ns ++ ms)) = acceptances (during k ns) := by
    intro k
    obtain rfl | ⟨n, rfl, -, hn, -⟩ := hms
    · rw [List.append_nil]
    · rw [acceptances_during_snoc, hn, ite_self, List.append_nil]
  have hanswers : ∀ k, answers (during k (ns ++ ms)) = answers (during k ns) := by
    intro k
    obtain rfl | ⟨n, rfl, -, -, hn⟩ := hms
    · rw [List.append_nil]
    · rw [answers_during_snoc, hn, ite_self, List.append_nil]
  have hall : acceptances (ns ++ ms) = acceptances ns := by
    obtain rfl | ⟨n, rfl, -, hn, -⟩ := hms
    · rw [List.append_nil]
    · rw [acceptances, List.filterMap_append]
      exact (congrArg _ hn).trans (List.append_nil _)
  constructor
  · exact hquiet
  · intro hw
    obtain ⟨hnone, hfresh⟩ := h.fresh (hwaiting hw)
    rw [hasked, hacceptances]
    exact ⟨hpending.elim (·.trans hnone) (·.1), hfresh⟩
  · intro text ht
    obtain hp | ⟨hp, -⟩ := hpending
    · rw [hp] at ht ⊢
      rw [hasked, hacceptances, hanswers]
      exact h.held text ht
    · rw [hp] at ht
      exact absurd ht (by simp)
  · intro ho
    obtain hp | ⟨-, hclose⟩ := hpending
    · rw [hp, (hopen ho).2]
      exact h.answerable (hopen ho).1
    · exact absurd (ho.symm.trans hclose) (by simp)
  · exact hasking
  · exact hclosed
  · intro k
    rw [hanswers, hacceptances]
    exact h.matched k
  · intro k
    rw [hacceptances]
    exact h.single k
  · rw [List.count_append, hall, Nat.add_assoc]
    exact (Nat.add_le_add_left hoffers _).trans h.delivered
  · rw [hasked, hall]
    have hle : s'.waiting.toNat ≤ s.waiting.toNat := Bool.toNat_le_toNat hwaiting
    exact (Nat.add_le_add_left hle _).trans h.accepted

/-- A run that has failed neither prints nor asks. -/
lemma quiet_of_step (hp : s.phase = .running) {r : Step}
    (hm : s.machine.step s.limit s.cancelled = r) (hhalt : r ≠ .halt)
    (hnext : ∀ m, r = .next m → m.failure? = none) : s.Quiet := by
  rw [Quiet, hp]
  by_contra hf
  obtain ⟨f, hf⟩ := Option.ne_none_iff_exists'.mp hf
  obtain hstep | ⟨m, hstep, hfm, -⟩ := @Machine.step_of_failure s.limit _ s.cancelled _ hf
  · exact hhalt (hm.symm.trans hstep)
  · rw [hnext m (hm.symm.trans hstep)] at hfm
    exact absurd hfm (by simp)

lemma ask (h : Orderly ns s) {name : Text} {m : Machine} (hp : s.phase = .running)
    (hm : s.machine.step s.limit s.cancelled = .ask name m) :
    Orderly (ns ++ [.asked])
      { s with machine := m, phase := .prompting name, waiting := true } := by
  obtain ⟨hw, hpending⟩ := h.quiet (quiet_of_step hp hm (by simp) (by simp))
  have hnew : during (ns.count .asked + 1) ns = [] := during_of_count_lt (Nat.lt_succ_self _)
  have hcount : (ns ++ [Notice.asked]).count .asked = ns.count .asked + 1 := by simp
  have hall : acceptances (ns ++ [.asked]) = acceptances ns := by simp [acceptances]
  constructor
  · intro hq
    exact absurd hq (by simp [Quiet])
  · intro _
    rw [hcount, during_snoc_asked, hnew]
    exact ⟨hpending, rfl⟩
  · intro text ht
    have ht : text ∈ s.pending := ht
    exact absurd ht (by simp [hpending])
  · exact fun _ => Or.inl rfl
  · exact fun _ => ⟨name, Machine.control_of_ask hm⟩
  · intro ho
    exact absurd ho (by simp [Phase.isOver])
  · intro k
    rw [during_snoc_asked]
    exact h.matched k
  · intro k
    rw [during_snoc_asked]
    exact h.single k
  · rw [hall]
    simpa using h.delivered
  · rw [hall, hcount]
    have := h.accepted
    rw [hw] at this
    exact Nat.succ_le_succ this

lemma take (h : Orderly ns s) {name text : Text} (hp : s.phase = .awaiting name)
    (hslot : s.slot = some text) :
    Orderly (ns ++ [.answered text]) { s with slot := none, phase := .answered (.ok text) } := by
  obtain ⟨hpending, haccepted, hanswers⟩ := h.held text (by simp [pending, hslot])
  have hoffers : s.offers = [] := by
    rw [pending, hslot] at hpending
    simpa using congrArg List.length hpending
  have hnone : pending { s with slot := none, phase := .answered (.ok text) } = [] := by
    simp [pending, hoffers]
  have hcount : (ns ++ [Notice.answered text]).count .asked = ns.count .asked := by simp
  have hw : s.waiting = false := by
    by_contra hw
    have := (h.fresh (by simpa using hw)).1
    rw [hpending] at this
    exact absurd this (by simp)
  have hacceptances : ∀ k, acceptances (during k (ns ++ [.answered text]))
      = acceptances (during k ns) := by
    intro k
    rw [acceptances_during_snoc]
    simp [acceptances]
  constructor
  · exact fun _ => ⟨hw, hnone⟩
  · intro hw'
    exact absurd (hw'.symm.trans hw) (by simp)
  · intro text' ht
    rw [hnone] at ht
    exact absurd ht (by simp)
  · intro ho
    exact absurd ho (by simp [Phase.isOpen])
  · intro _
    exact h.asking (by rw [hp]; rfl)
  · intro ho
    exact absurd ho (by simp [Phase.isOver])
  · intro k
    rw [hacceptances, answers_during_snoc]
    split_ifs with hk
    · subst hk
      rw [hanswers, haccepted]
      exact List.prefix_rfl
    · rw [List.append_nil]
      exact h.matched k
  · intro k
    rw [hacceptances]
    exact h.single k
  · simpa [acceptances] using h.delivered
  · simpa [acceptances] using h.accepted

lemma accept (h : Orderly ns s) (hw : s.waiting = true) (text : Text) :
    Orderly (ns ++ [.accepted text])
      { s with waiting := false, offers := text :: s.offers } := by
  obtain ⟨hpending, hnone⟩ := h.fresh hw
  have hcount : (ns ++ [Notice.accepted text]).count .asked = ns.count .asked := by simp
  have hone : pending { s with waiting := false, offers := text :: s.offers } = [text] :=
    congrArg (text :: ·) hpending
  have hacceptances : ∀ k, acceptances (during k (ns ++ [.accepted text]))
      = acceptances (during k ns) ++ if ns.count .asked = k then [text] else [] :=
    fun k => acceptances_during_snoc k ns _
  have hanswers : ∀ k, answers (during k (ns ++ [.accepted text])) = answers (during k ns) := by
    intro k
    rw [answers_during_snoc]
    simp [answers]
  have hasked : (acceptances ns).length + 1 ≤ ns.count .asked := by
    have := h.accepted
    rwa [hw] at this
  have hall : (acceptances (ns ++ [.accepted text])).length = (acceptances ns).length + 1 := by
    simp [acceptances]
  constructor
  · intro hq
    have hq : s.Quiet := hq
    exact absurd (hw.symm.trans (h.quiet hq).1) (by simp)
  · intro hw'
    exact absurd hw' (by simp)
  · intro text' ht
    rw [hone] at ht ⊢
    obtain rfl := List.mem_singleton.mp ht
    rw [hcount, hacceptances, hanswers, hnone, if_pos rfl]
    refine ⟨rfl, rfl, ?_⟩
    have := h.matched (ns.count .asked)
    rw [hnone] at this
    exact List.prefix_nil.mp this
  · intro _
    rw [hone]
    exact Or.inr (by simp)
  · exact h.asking
  · exact fun _ => rfl
  · intro k
    rw [hacceptances, hanswers]
    exact (h.matched k).trans (List.prefix_append _ _)
  · intro k
    rw [hacceptances]
    split_ifs with hk
    · subst hk
      rw [hnone]
      exact Nat.le_min.mpr ⟨(Nat.le_add_left 1 _).trans hasked, Nat.le_refl 1⟩
    · rw [List.append_nil]
      exact h.single k
  · have := h.delivered
    rw [hall]
    simp
    omega
  · rw [hall, hcount]
    exact hasked

/-- An accepted answer on its way is the only one, and the place for it is free. -/
lemma offers_eq (h : Orderly ns s) {n : Nat} (hn : n < s.offers.length) :
    ∃ text, s.offers = [text] ∧ n = 0 ∧ s.slot = none := by
  obtain ⟨text, ht⟩ := List.exists_mem_of_length_pos (Nat.zero_lt_of_lt hn)
  have hpending := (h.held text (List.mem_append_left _ ht)).1
  have hlen := congrArg List.length hpending
  rw [pending, List.length_append, List.length_singleton] at hlen
  have hslot : s.slot = none := by
    cases hs : s.slot with
    | none => rfl
    | some t =>
        rw [hs, Option.toList_some, List.length_singleton] at hlen
        omega
  rw [pending, hslot, Option.toList_none, List.append_nil] at hpending
  rw [hpending, List.length_singleton] at hn
  exact ⟨text, hpending, Nat.lt_one_iff.mp hn, hslot⟩

lemma deliver (h : Orderly ns s) {n : Nat} {text : Text} (ho : s.offers[n]? = some text) :
    Orderly (ns ++ [.delivered])
      { s with offers := s.offers.eraseIdx n, slot := some text } := by
  obtain ⟨hn, hget⟩ := List.getElem?_eq_some_iff.mp ho
  obtain ⟨text', hoffers, rfl, hslot⟩ := h.offers_eq hn
  obtain rfl : text' = text := by simpa [hoffers] using hget
  -- the answer moves from the offers to the slot, so the same one is pending
  have hpending : pending { s with offers := s.offers.eraseIdx 0, slot := some text' }
      = s.pending := by
    simp [pending, hoffers, hslot]
  refine h.aside (Or.inr ⟨_, rfl, by simp, rfl, rfl⟩) (Or.inl hpending) ?_ id ?_ ?_ h.asking
    h.closed
  · simp [hoffers]
  · rw [hpending]
    exact h.quiet
  · exact fun ho => ⟨ho, rfl⟩

lemma withdraw (h : Orderly ns s) {n : Nat} {f : Option Failure} (hp : s.phase = .ended f)
    (hn : n < s.offers.length) :
    Orderly (ns ++ [.withdrawn]) { s with offers := s.offers.eraseIdx n } := by
  obtain ⟨text, hoffers, rfl, hslot⟩ := h.offers_eq hn
  have hpending : pending { s with offers := s.offers.eraseIdx 0 } = [] := by
    simp [pending, hoffers, hslot]
  refine h.aside (Or.inr ⟨_, rfl, by simp, rfl, rfl⟩) (Or.inr ⟨hpending, by rw [hp]; rfl⟩) ?_ id ?_
    ?_ h.asking h.closed
  · simp [hoffers]
  · intro hq
    exact absurd hq (by simp [Quiet, hp])
  · exact fun ho => ⟨ho, rfl⟩

/-- **Whatever happens keeps the invariant.** -/
lemma step (h : Orderly ns s) (hd : Does s s' ms) : Orderly (ns ++ ms) s' := by
  cases hd with
  | halt hp hm =>
      refine h.aside (Or.inl rfl) (Or.inl rfl) (by simp) (by simp) ?_ ?_ ?_ ?_ <;>
        simp [Quiet, Phase.isOpen, Phase.isAsking]
  | next hp hm =>
      refine h.aside (Or.inl rfl) (Or.inl rfl) (by simp) id ?_ ?_ ?_ ?_
      · intro hq
        refine h.quiet (quiet_of_step hp hm (by simp) ?_)
        intro m' hm'
        obtain rfl := Step.next.inj hm'
        simpa [Quiet, hp] using hq
      all_goals simp [hp, Phase.isOpen, Phase.isAsking, Phase.isOver]
  | emit hp hm =>
      refine h.aside (Or.inl rfl) (Or.inl rfl) (by simp) id ?_ ?_ ?_ ?_
      · exact fun _ => h.quiet (quiet_of_step hp hm (by simp) (by simp))
      all_goals simp [Phase.isOpen, Phase.isAsking, Phase.isOver]
  | ask hp hm => exact h.ask hp hm
  | print hp =>
      refine h.aside (Or.inl rfl) (Or.inl rfl) (by simp) id ?_ ?_ ?_ ?_
      · exact fun _ => h.quiet (by simp [Quiet, hp])
      all_goals simp [Phase.isOpen, Phase.isAsking, Phase.isOver]
  | prompt hp =>
      refine h.aside (Or.inl rfl) (Or.inl rfl) (by simp) id ?_ ?_ ?_ ?_
      · intro hq
        exact absurd hq (by simp [Quiet])
      · exact fun _ => ⟨by rw [hp]; rfl, rfl⟩
      · exact fun _ => h.asking (by rw [hp]; rfl)
      · simp [Phase.isOver]
  | take hp hslot => exact h.take hp hslot
  | @close a hp =>
      refine h.aside (Or.inl rfl) (Or.inl rfl) (by simp) (by simp) ?_ ?_ ?_ ?_
      · intro hq
        cases a with
        | error fault => exact absurd hq (by simp [Quiet])
        | ok text => exact ⟨rfl, (h.quiet (by simp [Quiet, hp])).2⟩
      · simp [Phase.isOpen]
      · exact fun _ => h.asking (by rw [hp]; rfl)
      · exact fun _ => rfl
  | @resume a hp =>
      refine h.aside (Or.inl rfl) (Or.inl rfl) (by simp) id ?_ ?_ ?_ ?_
      · intro hq
        cases a with
        | error fault =>
            obtain ⟨name, hname⟩ := h.asking (by rw [hp]; rfl)
            rw [Quiet, Machine.failure?_answer_error hname] at hq
            exact absurd hq (by simp)
        | ok text => exact h.quiet (by simp [Quiet, hp])
      all_goals simp [Phase.isOpen, Phase.isAsking, Phase.isOver]
  | shut hp =>
      refine h.aside (Or.inl rfl) (Or.inl rfl) (by simp) id ?_ ?_ ?_ ?_
      · simp [Quiet]
      · simp [Phase.isOpen]
      · simp [Phase.isAsking]
      · exact fun _ => h.closed (by rw [hp]; rfl)
  | finish hp =>
      refine h.aside (Or.inl rfl) (Or.inl rfl) (by simp) id ?_ ?_ ?_ ?_
      · simp [Quiet]
      · simp [Phase.isOpen]
      · simp [Phase.isAsking]
      · exact fun _ => h.closed (by rw [hp]; rfl)
  | drop hp hc =>
      refine h.aside (Or.inl rfl) (Or.inl rfl) (by simp) id ?_ ?_ ?_ ?_
      · exact fun _ => h.quiet (by simp [Quiet, hp])
      all_goals simp [Phase.isOpen, Phase.isAsking, Phase.isOver]
  | abandon hp hc =>
      refine h.aside (Or.inl rfl) (Or.inl rfl) (by simp) id ?_ ?_ ?_ ?_
      · simp [Quiet]
      · simp [Phase.isOpen]
      · obtain ⟨name, hp⟩ | ⟨name, hp⟩ := hp <;> exact fun _ => h.asking (by rw [hp]; rfl)
      · simp [Phase.isOver]
  | accept hw => exact h.accept hw _
  | refuse | receive | cancel =>
      refine h.aside (Or.inr ⟨_, rfl, by simp, rfl, rfl⟩) (Or.inl rfl) (by simp) id h.quiet ?_
        h.asking h.closed
      exact fun ho => ⟨ho, rfl⟩
  | deliver ho hslot => exact h.deliver ho
  | withdraw hp hn => exact h.withdraw hp hn

lemma of_runs {i : Interpreter} {p : Option Program} (h : Runs (Session.start i p) ns s) :
    Orderly ns s :=
  h.invariant (start i p) fun _ _ _ _ ho hd => ho.step hd

end Orderly

/-- An ended session stays so. -/
lemma Runs.ended {s s' : Session} {ns : List Notice} {f : Option Failure} (h : Runs s ns s')
    (hp : s.phase = .ended f) (hw : s.waiting = false) :
    s'.phase = .ended f ∧ s'.waiting = false := by
  induction h with
  | refl => exact ⟨hp, hw⟩
  | act _ ha ih =>
      obtain ⟨hp₁, hw₁⟩ := ih
      cases does_of_act ha <;> simp_all

/-! ### One answer for each prompt -/

open Notice in
/-- **Each prompt takes exactly one answer**, in every interleaving of a program with any number of
calls that provide answers and with a host that receives and cancels at any moment. At most one
answer is on its way to the program or there. While a prompt is the last one asked, at most one
answer is accepted, and that is the one that the program takes; before the first prompt there is
none. As many calls at most are told of success as prompts were asked. A call that begins when the
session has ended is refused. -/
theorem one_answer_per_prompt (i : Interpreter) (p : Option Program) {ns : List Notice}
    {s : Session} (h : Runs (start i p) ns s) :
    s.offers.length + s.slot.toList.length ≤ 1
    ∧ (∀ k, answers (during k ns) <+: acceptances (during k ns)
      ∧ (acceptances (during k ns)).length ≤ min k 1)
    ∧ ns.count .delivered ≤ ns.count .asked
    ∧ ∀ f, s.phase = .ended f → ∀ ns' s', Runs s ns' s' →
      ∀ text, s'.act (.provide text) = some (s', [.refused text]) := by
  have ho := Orderly.of_runs h
  refine ⟨?_, ?_, ?_, ?_⟩
  · rw [← List.length_append, ← pending]
    cases hp : s.pending with
    | nil => exact Nat.zero_le 1
    | cons text rest =>
        rw [← hp, (ho.held text (by simp [hp])).1]
        exact le_rfl
  · exact fun k => ⟨ho.matched k, ho.single k⟩
  · have hdelivered := ho.delivered
    have haccepted := ho.accepted
    omega
  · intro f hp ns' s' h' text
    obtain ⟨-, hw⟩ := h'.ended hp (ho.closed (by rw [hp]; rfl))
    rw [act, accept, if_neg (by simp [hw])]

/-- A program that asks twice. -/
def twoPrompts : Program := ⟨none, [.input none [0x61], .input none [0x62]]⟩

/-- Two answers race for the first prompt before the host has seen it, and one for the second prompt
arrives when the run has been cancelled and the prompt given up. -/
def racing : List Act :=
  [.work, .work, .provide [0x78], .provide [0x79], .work, .receive, .deliver 0, .work, .work, .work,
   .work, .work, .work, .provide [0x7a], .cancel, .quit, .work, .deliver 0, .work, .work, .work,
   .work, .work]

/-- The first prompt takes the answer that was first, the second one none. -/
theorem one_answer_per_prompt_racing :
    ∃ ns s, Runs (start (.new none) (some twoPrompts)) ns s
      ∧ Notice.answers (Notice.during 1 ns) = [[0x78]]
      ∧ Notice.acceptances (Notice.during 2 ns) = [[0x7a]]
      ∧ Notice.answers (Notice.during 2 ns) = []
      ∧ s.slot = some [0x7a] ∧ s.offers.length + s.slot.toList.length ≤ 1
      ∧ ns.count .delivered ≤ ns.count .asked
      ∧ s.act (.provide [0x7a]) = some (s, [.refused [0x7a]]) := by
  have hf : ∃ s ns, (start (.new none) (some twoPrompts)).follow racing = some (s, ns)
      ∧ Notice.answers (Notice.during 1 ns) = [[0x78]]
      ∧ Notice.acceptances (Notice.during 2 ns) = [[0x7a]]
      ∧ Notice.answers (Notice.during 2 ns) = []
      ∧ s.slot = some [0x7a] ∧ s.phase = .ended (some (.input [0x62] .canceled)) :=
    ⟨_, _, rfl, rfl, rfl, rfl, rfl, rfl⟩
  obtain ⟨s, ns, hf, hfirst, hsecond, hnone, hslot, hp⟩ := hf
  have hruns := Runs.refl.follow hf
  obtain ⟨hone, -, hcount, hended⟩ := one_answer_per_prompt _ _ hruns
  exact ⟨ns, s, hruns, hfirst, hsecond, hnone, hslot, hone, hcount, hended _ hp _ _ .refl _⟩

end Session

end LessonLang
