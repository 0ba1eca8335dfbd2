import LessonLang.Proofs.Machine.Cancel
import LessonLang.Proofs.Session.Prompt

/-!
Sessions on the trail of a run.

* `Notice.Listed`: the host answers the prompts from a list.
* `Session.Trails` relates a session to a moment of the run with these answers that is never
  cancelled. The events of the session and those of the run stand in a relation `rel`; for a
  session without cancellation it is equality.
* `Session.Trails.step`: whatever happens in the session, it stays on the trail, or it is lost
  because it was cancelled. A lost session has nothing more to show (`Session.Lost.step`).
-/

namespace LessonLang

/-! ### Answers from a list -/

namespace Notice

lemma during_append_left (k : Nat) (ns ms : List Notice) : during k ns <+: during k (ns ++ ms) := by
  induction ms generalizing ns with
  | nil => rw [List.append_nil]
  | cons n ms ih =>
      rw [List.append_cons]
      refine List.IsPrefix.trans ?_ (ih _)
      by_cases hn : n = .asked
      · rw [hn, during_snoc_asked]
      · rw [during_snoc k ns hn]
        split_ifs
        · exact List.prefix_append _ _
        · exact List.prefix_rfl

/-- **The answers are from a list**: what is accepted for the `k`-th prompt is the `k`-th text of
the list, or the empty one behind its end. -/
def Listed (answers : List Text) (ns : List Notice) : Prop :=
  ∀ k text, .accepted text ∈ during (k + 1) ns → text = answers.getD k []

lemma Listed.of_append {answers : List Text} {ns ms : List Notice}
    (h : Listed answers (ns ++ ms)) : Listed answers ns :=
  fun k text hmem => h k text ((during_append_left _ ns ms).subset hmem)

end Notice

/-! ### The trail -/

namespace Session

open Notice

/-- **A session is on the trail of a run** that has come to the machine `m` and the host `q`. What
was received and what is in the buffer stands in the relation `rel` to what the run has shown; while
a prompt is asked, it is what the run shows next, and its answer the one that the run will take. -/
def Trails (rel : List Event → List Event → Prop) (answers : List Text) (ns : List Notice)
    (s : Session) (m : Machine) (q : Queue) : Prop :=
  let es := receipts ns ++ s.buffer
  match s.phase with
  | .running => s.machine = m ∧ rel es q.events ∧ q.answers = answers.drop (ns.count .asked)
  | .printing text =>
    m.step s.limit false = .emit text s.machine ∧ rel es q.events
      ∧ q.answers = answers.drop (ns.count .asked)
  | .prompting name =>
    m.step s.limit false = .ask name s.machine ∧ rel es q.events
      ∧ ∃ k, ns.count .asked = k + 1 ∧ q.answers = answers.drop k
  | .awaiting name =>
    m.step s.limit false = .ask name s.machine ∧ rel es (q.events ++ [.prompt (promptText name)])
      ∧ ∃ k, ns.count .asked = k + 1 ∧ q.answers = answers.drop k
  | .answered a | .resuming a =>
    ∃ name, m.step s.limit false = .ask name s.machine
      ∧ rel es (q.events ++ [.prompt (promptText name)])
      ∧ ∃ k, ns.count .asked = k + 1 ∧ q.answers = answers.drop k ∧ a = .ok (answers.getD k [])
  | .stopped f | .closed f | .ended f =>
    s.machine = m ∧ rel es q.events ∧ m.Finished [] ∧ f = m.failure?

/-- **The session has nothing more to show**: the program has failed or is about to, or it is
over. -/
def Lost (s : Session) : Prop :=
  match s.phase with
  | .running => s.machine.failure?.isSome = true
  | .answered (.error _) | .resuming (.error _) => ∃ name, s.machine.control = .await name
  | .stopped _ | .closed _ | .ended _ => True
  | _ => False

section trail

variable {rel : List Event → List Event → Prop} {answers : List Text} {ns ms : List Notice}
  {s s' : Session} {m : Machine} {q : Queue}

/-- An act of the host that only moves events or answers about, or cancels. -/
lemma Trails.host (h : s.Trails rel answers ns m q) (hphase : s'.phase = s.phase)
    (hmachine : s'.machine = s.machine) (hlimit : s'.limit = s.limit)
    (hevents : receipts (ns ++ ms) ++ s'.buffer = receipts ns ++ s.buffer)
    (hasked : (ns ++ ms).count .asked = ns.count .asked) :
    s'.Trails rel answers (ns ++ ms) m q := by
  rw [Trails, hphase, hmachine, hlimit, hevents, hasked]
  exact h

/-- The answer that the program takes is the one that the list has for the prompt. -/
lemma Orderly.listed (ho : Orderly ns s) (ha : Listed answers ns) {k : Nat} {text : Text}
    (hk : ns.count .asked = k + 1) (hslot : s.slot = some text) : text = answers.getD k [] := by
  obtain ⟨-, haccepted, -⟩ := ho.held text (by simp [pending, hslot])
  refine ha k text ?_
  have hmem : text ∈ acceptances (during (k + 1) ns) := by
    rw [← hk, haccepted]
    exact List.mem_singleton_self text
  obtain ⟨n, hn, hnext⟩ := List.mem_filterMap.mp hmem
  cases n with
  | accepted t =>
      obtain rfl := Option.some.inj hnext
      exact hn
  | _ => exact absurd hnext (by simp)

/-- **A lost session** shows nothing more, whatever happens. -/
lemma Lost.step (h : s.Lost) (hd : Does s s' ms) (ns : List Notice) :
    s'.Lost ∧ receipts (ns ++ ms) ++ s'.buffer = receipts ns ++ s.buffer := by
  -- a program that has failed neither prints nor asks
  have hfailed : s.phase = .running → s.machine.step s.limit s.cancelled = .halt
      ∨ ∃ m, s.machine.step s.limit s.cancelled = .next m ∧ m.failure?.isSome = true := by
    intro hp
    rw [Lost, hp] at h
    obtain ⟨f, hf⟩ := Option.isSome_iff_exists.mp h
    refine (Machine.step_of_failure hf).imp_right ?_
    rintro ⟨m, hnext, hf', -⟩
    exact ⟨m, hnext, by rw [hf']; rfl⟩
  cases hd with
  | halt => exact ⟨trivial, by rw [List.append_nil]⟩
  | next hp hm =>
      obtain hhalt | ⟨m', hnext, hf'⟩ := hfailed hp
      · exact absurd (hm.symm.trans hhalt) (by simp)
      · obtain rfl := Step.next.inj (hm.symm.trans hnext)
        refine ⟨?_, by rw [List.append_nil]⟩
        rw [Lost, hp]
        exact hf'
  | emit hp hm =>
      obtain hhalt | ⟨m', hnext, -⟩ := hfailed hp
      · exact absurd (hm.symm.trans hhalt) (by simp)
      · exact absurd (hm.symm.trans hnext) (by simp)
  | ask hp hm =>
      obtain hhalt | ⟨m', hnext, -⟩ := hfailed hp
      · exact absurd (hm.symm.trans hhalt) (by simp)
      · exact absurd (hm.symm.trans hnext) (by simp)
  | close hp =>
      refine ⟨?_, by rw [List.append_nil]⟩
      rw [Lost, hp] at h
      rename_i a
      cases a with
      | error fault => exact h
      | ok text => exact h.elim
  | resume hp =>
      refine ⟨?_, by rw [List.append_nil]⟩
      rw [Lost, hp] at h
      rename_i a
      cases a with
      | error fault =>
          obtain ⟨name, hname⟩ := h
          show (s.machine.answer s.cancelled (.error fault)).failure?.isSome = true
          rw [Machine.failure?_answer_error hname]
          rfl
      | ok text => exact h.elim
  | shut | finish => exact ⟨trivial, by rw [List.append_nil]⟩
  | print hp | prompt hp | take hp | drop hp =>
      rw [Lost, hp] at h
      exact h.elim
  | abandon hp =>
      obtain ⟨name, hp⟩ | ⟨name, hp⟩ := hp
      all_goals
        rw [Lost, hp] at h
        exact h.elim
  | accept | refuse | deliver | withdraw | cancel => exact ⟨h, by simp [receipts]⟩
  | receive hb => exact ⟨h, by simp [receipts, hb]⟩

/-! ### Acts on the trail

Most acts leave the run where it is. It makes a step with the session when the machine works on, when an
output is written or dropped, and when an answer is taken up. -/

/-- A step of the machine of a session is the one that the run makes, or it fails because the session
was cancelled. -/
lemma step_run_or_canceled {r : Step} (h : s.machine.step s.limit s.cancelled = r) :
    s.machine.step s.limit false = r
      ∨ (s.cancelled = true ∧ r = s.machine.resume (.failed .canceled) s.machine.frames) := by
  obtain rfl := h
  cases s.cancelled with
  | false => exact Or.inl rfl
  | true =>
      obtain hsame | hfails := s.machine.step_cancelled s.limit
      · exact Or.inl hsame.symm
      · exact Or.inr ⟨rfl, hfails⟩

/-- The machine halts: the run is finished. -/
lemma Trails.halt (h : s.Trails rel answers ns m q) (hp : s.phase = .running)
    (hm : s.machine.step s.limit s.cancelled = .halt) :
    { s with phase := .stopped s.machine.failure?, waiting := false }.Trails rel answers ns m q := by
  rw [Trails, hp] at h
  obtain ⟨rfl, hevents, -⟩ := h
  exact ⟨rfl, hevents, Machine.step_eq_halt_iff.mp hm, rfl⟩

/-- The machine works on: so does the run, or the step fails because the session was cancelled. -/
lemma Trails.next {m' : Machine} (h : s.Trails rel answers ns m q) (hq : q.cancelled = false)
    (hp : s.phase = .running) (hm : s.machine.step s.limit s.cancelled = .next m') :
    (∃ q', Machine.Path (Queue.host {}) s.limit 1 m q m' q' ∧ q'.cancelled = false
        ∧ { s with machine := m' }.Trails rel answers ns m' q')
      ∨ (s.cancelled = true ∧ { s with machine := m' }.Lost
        ∧ rel (receipts ns ++ s.buffer) q.events) := by
  rw [Trails, hp] at h
  obtain ⟨rfl, hevents, hanswers⟩ := h
  obtain hsame | ⟨hc, hfails⟩ := step_run_or_canceled hm
  · refine Or.inl ⟨_, .step (Queue.move_next hq hsame) (.refl _ _), hq, ?_⟩
    rw [Trails, hp]
    exact ⟨rfl, hevents, hanswers⟩
  · obtain rfl := Step.next.inj hfails
    refine Or.inr ⟨hc, ?_, hevents⟩
    rw [Lost, hp]
    rfl

/-- The machine prints, and the output waits for room in the buffer. -/
lemma Trails.emit {text : Text} {m' : Machine} (h : s.Trails rel answers ns m q)
    (hp : s.phase = .running) (hm : s.machine.step s.limit s.cancelled = .emit text m') :
    { s with machine := m', phase := .printing text }.Trails rel answers ns m q := by
  rw [Trails, hp] at h
  obtain ⟨rfl, hevents, hanswers⟩ := h
  obtain hsame | ⟨-, hfails⟩ := step_run_or_canceled hm
  · exact ⟨hsame, hevents, hanswers⟩
  · exact absurd hfails (by simp [Machine.resume])

/-- The machine asks, and the prompt waits for room in the buffer. -/
lemma Trails.ask {name : Text} {m' : Machine} (h : s.Trails rel answers ns m q)
    (hp : s.phase = .running) (hm : s.machine.step s.limit s.cancelled = .ask name m') :
    { s with machine := m', phase := .prompting name, waiting := true }.Trails rel answers
      (ns ++ [Notice.asked]) m q := by
  rw [Trails, hp] at h
  obtain ⟨rfl, hevents, hanswers⟩ := h
  obtain hsame | ⟨-, hfails⟩ := step_run_or_canceled hm
  · exact ⟨hsame, by simpa [receipts] using hevents, _, by simp, hanswers⟩
  · exact absurd hfails (by simp [Machine.resume])

/-- An output leaves the session: the run shows it, and what the session shows for it is `es`. -/
lemma Trails.output {text : Text} (h : s.Trails rel answers ns m q) (hq : q.cancelled = false)
    (hp : s.phase = .printing text) (es : List Event)
    (hes : rel (receipts ns ++ s.buffer) q.events →
      rel (receipts ns ++ (s.buffer ++ es)) (q.events ++ [.output text])) :
    ∃ m' q', Machine.Path (Queue.host {}) s.limit 1 m q m' q' ∧ q'.cancelled = false
      ∧ { s with buffer := s.buffer ++ es, phase := .running }.Trails rel answers ns m' q' := by
  rw [Trails, hp] at h
  obtain ⟨hemit, hevents, hanswers⟩ := h
  refine ⟨_, _, .step (Queue.move_emit hq hemit) (.refl _ _), hq, rfl, ?_, hanswers⟩
  rw [Queue.events, List.reverse_cons]
  exact hes hevents

/-- A prompt enters the buffer. The run shows it when it takes the answer. -/
lemma Trails.prompt {name : Text} (hrel : ∀ es ts e, rel es ts → rel (es ++ [e]) (ts ++ [e]))
    (h : s.Trails rel answers ns m q) (hp : s.phase = .prompting name) :
    { s with buffer := s.buffer ++ [Event.prompt (promptText name)], phase := .awaiting name }.Trails
      rel answers ns m q := by
  rw [Trails, hp] at h
  obtain ⟨hask, hevents, hanswers⟩ := h
  refine ⟨hask, ?_, hanswers⟩
  rw [← List.append_assoc]
  exact hrel _ _ _ hevents

/-- The program takes the answer that the list has for the prompt. -/
lemma Trails.take {name text : Text} (h : s.Trails rel answers ns m q) (ho : Orderly ns s)
    (ha : Listed answers ns) (hp : s.phase = .awaiting name) (hslot : s.slot = some text) :
    { s with slot := none, phase := .answered (.ok text) }.Trails rel answers
      (ns ++ [Notice.answered text]) m q := by
  rw [Trails, hp] at h
  obtain ⟨hask, hevents, k, hk, hanswers⟩ := h
  obtain rfl := ho.listed ha hk hslot
  exact ⟨_, hask, by simpa [receipts] using hevents, k, by simp [hk], hanswers, rfl⟩

/-- The program goes on behind a prompt: the run takes the same answer there, unless the session was
cancelled and the answer comes too late. -/
lemma Trails.resume {a : Machine.Answer} (h : s.Trails rel answers ns m q)
    (hq : q.cancelled = false) (hp : s.phase = .resuming a) :
    ∃ m' q', Machine.Path (Queue.host {}) s.limit 1 m q m' q' ∧ q'.cancelled = false
      ∧ rel (receipts ns ++ s.buffer) q'.events
      ∧ ({ s with machine := s.machine.answer s.cancelled a, phase := .running }.Trails rel answers
          ns m' q'
        ∨ (s.cancelled = true
          ∧ { s with machine := s.machine.answer s.cancelled a, phase := .running }.Lost)) := by
  rw [Trails, hp] at h
  obtain ⟨name, hask, hevents, k, hk, hanswers, rfl⟩ := h
  have hshown : rel (receipts ns ++ s.buffer)
      (Event.prompt (promptText name) :: q.seen).reverse := by
    rw [List.reverse_cons]
    exact hevents
  refine ⟨_, _, .step (Queue.move_ask hq hask) (.refl _ _), hq, hshown, ?_⟩
  cases hc : s.cancelled with
  | false =>
      refine Or.inl ⟨?_, hshown, ?_⟩
      · rw [hanswers, List.headD_eq_head?_getD, List.head?_drop, List.getD_eq_getElem?_getD]
      · rw [hanswers, hk, List.tail_drop]
  | true =>
      obtain ⟨f, hf, -⟩ := Machine.canceled_answer (Machine.control_of_ask hask)
        (a := .ok (answers.getD k [])) (by simp)
      exact Or.inr ⟨rfl, Option.isSome_iff_exists.mpr ⟨f, hf⟩⟩

/-- A prompt is given up: what the session has shown is what the run shows, before its prompt or behind
it. -/
lemma Trails.abandon (h : s.Trails rel answers ns m q) (hq : q.cancelled = false)
    (hp : (∃ name, s.phase = .prompting name) ∨ ∃ name, s.phase = .awaiting name) :
    { s with phase := .answered (.error .canceled) }.Lost
      ∧ ∃ n m' q', Machine.Path (Queue.host {}) s.limit n m q m' q'
        ∧ rel (receipts ns ++ s.buffer) q'.events := by
  obtain ⟨name, hp⟩ | ⟨name, hp⟩ := hp
  · rw [Trails, hp] at h
    obtain ⟨hask, hevents, -⟩ := h
    exact ⟨⟨name, Machine.control_of_ask hask⟩, 0, m, q, .refl _ _, hevents⟩
  · rw [Trails, hp] at h
    obtain ⟨hask, hevents, -⟩ := h
    refine ⟨⟨name, Machine.control_of_ask hask⟩, 1, _, _,
      .step (Queue.move_ask hq hask) (.refl _ _), ?_⟩
    rw [Queue.events, List.reverse_cons]
    exact hevents

/-- **Whatever happens** in a session on the trail of a run, it stays there, or it is lost because
it was cancelled, behind events that the run shows as well. That an output is dropped has to agree
with the relation between the events. -/
lemma Trails.step (hrel : ∀ es ts e, rel es ts → rel (es ++ [e]) (ts ++ [e]))
    (hdrop : s.phase.isOver = false → s.cancelled = true →
      ∀ es ts text, rel es ts → rel es (ts ++ [.output text]))
    (h : s.Trails rel answers ns m q) (hq : q.cancelled = false) (ho : Orderly ns s)
    (hd : Does s s' ms) (ha : Listed answers (ns ++ ms)) :
    (∃ n m' q', Machine.Path (Queue.host {}) s.limit n m q m' q' ∧ q'.cancelled = false
        ∧ s'.Trails rel answers (ns ++ ms) m' q')
      ∨ (s.phase.isOver = false ∧ s.cancelled = true ∧ s'.Lost
        ∧ ∃ n m' q', Machine.Path (Queue.host {}) s.limit n m q m' q'
          ∧ rel (receipts (ns ++ ms) ++ s'.buffer) q'.events) := by
  -- the run stays where it is
  have hstay (h' : s'.Trails rel answers (ns ++ ms) m q) :
      ∃ n m' q', Machine.Path (Queue.host {}) s.limit n m q m' q' ∧ q'.cancelled = false
        ∧ s'.Trails rel answers (ns ++ ms) m' q' := ⟨0, m, q, .refl _ _, hq, h'⟩
  have hnil : ns ++ [] = ns := List.append_nil ns
  cases hd with
  | halt hp hm => exact Or.inl (hstay (hnil.symm ▸ h.halt hp hm))
  | next hp hm =>
      rw [hnil]
      obtain ⟨q', hpath, hq', h'⟩ | ⟨hc, hlost, hevents⟩ := h.next hq hp hm
      · exact Or.inl ⟨1, _, q', hpath, hq', h'⟩
      · exact Or.inr ⟨by rw [hp]; rfl, hc, hlost, 0, m, q, .refl _ _, hevents⟩
  | emit hp hm => exact Or.inl (hstay (hnil.symm ▸ h.emit hp hm))
  | ask hp hm => exact Or.inl (hstay (h.ask hp hm))
  | print hp =>
      rw [hnil]
      obtain ⟨m', q', hreached⟩ := h.output hq hp [.output _] fun hevents => by
        rw [← List.append_assoc]
        exact hrel _ _ _ hevents
      exact Or.inl ⟨1, m', q', hreached⟩
  | prompt hp => exact Or.inl (hstay (hnil.symm ▸ h.prompt hrel hp))
  | take hp hslot => exact Or.inl (hstay (h.take ho ha.of_append hp hslot))
  | resume hp =>
      rw [hnil]
      obtain ⟨m', q', hpath, hq', hevents, h' | ⟨hc, hlost⟩⟩ := h.resume hq hp
      · exact Or.inl ⟨1, m', q', hpath, hq', h'⟩
      · exact Or.inr ⟨by rw [hp]; rfl, hc, hlost, 1, m', q', hpath, hevents⟩
  | close hp | shut hp | finish hp =>
      refine Or.inl (hstay ?_)
      rw [Trails, hp] at h
      rw [hnil]
      exact h
  | drop hp hc =>
      rw [hnil]
      obtain ⟨m', q', hreached⟩ := h.output hq hp [] fun hevents => by
        rw [List.append_nil]
        exact hdrop (by rw [hp]; rfl) hc _ _ _ hevents
      rw [List.append_nil] at hreached
      exact Or.inl ⟨1, m', q', hreached⟩
  | abandon hp hc =>
      rw [hnil]
      have hgoing : s.phase.isOver = false := by
        obtain ⟨name, hp⟩ | ⟨name, hp⟩ := hp <;> rw [hp] <;> rfl
      exact Or.inr ⟨hgoing, hc, h.abandon hq hp⟩
  | accept | refuse | deliver | withdraw | cancel =>
      exact Or.inl (hstay (h.host rfl rfl rfl (by simp [receipts]) (by simp)))
  | receive hb => exact Or.inl (hstay (h.host rfl rfl rfl (by simp [receipts, hb]) (by simp)))

end trail

end Session

end LessonLang
