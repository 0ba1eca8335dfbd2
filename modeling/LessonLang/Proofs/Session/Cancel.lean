import LessonLang.Proofs.Session.Refinement

/-!
What is received of a cancelled session.

A cancelled session goes on as far as the program runs straight on, and each of its outputs is
written or dropped, as it happens. So an output can be missing while a later one is there
(`Session.cancelled_session_has_gaps`).

* `Event.Thinned`: events from which outputs are missing, behind some that are all there.
* `Session.cancelled_session_thinned`: what is received of a session and what is in its buffer are,
  in order, events that the program shows without a cancellation. Up to the cancellation none is
  missing, and behind it outputs may be, but no prompt.
-/

namespace LessonLang

/-! ### Missing outputs -/

namespace Event

/-- **Outputs are missing** from `es`, compared with `ts`, but none of those at the beginning `es₀`,
and no prompt. -/
def Thinned (es₀ es ts : List Event) : Prop :=
  ∃ kept all, es = es₀ ++ kept ∧ ts = es₀ ++ all ∧ kept.Sublist all ∧ prompts kept = prompts all

variable {es₀ es ts : List Event}

lemma prompts_append (es ts : List Event) : prompts (es ++ ts) = prompts es ++ prompts ts :=
  List.filterMap_append

lemma Thinned.refl (es : List Event) : Thinned es es es :=
  ⟨[], [], (List.append_nil es).symm, (List.append_nil es).symm, .slnil, rfl⟩

/-- An event that is there is missing nowhere. -/
lemma Thinned.snoc (h : Thinned es₀ es ts) (e : Event) : Thinned es₀ (es ++ [e]) (ts ++ [e]) := by
  obtain ⟨kept, all, rfl, rfl, hsub, hprompts⟩ := h
  refine ⟨kept ++ [e], all ++ [e], by simp, by simp, hsub.append (.refl _), ?_⟩
  rw [prompts_append, prompts_append, hprompts]

lemma Thinned.skip (h : Thinned es₀ es ts) (text : Text) :
    Thinned es₀ es (ts ++ [.output text]) := by
  obtain ⟨kept, all, rfl, rfl, hsub, hprompts⟩ := h
  refine ⟨kept, all ++ [.output text], rfl, by simp, hsub.trans (List.sublist_append_left _ _), ?_⟩
  rw [prompts_append, hprompts]
  exact (List.append_nil _).symm

end Event

namespace Session

open Notice

section thinning

variable {i : Interpreter} {p : Program} {answers : List Text} {ns ms : List Notice}
  {s s' : Session} {m : Machine} {q : Queue} {es₀ : List Event}

lemma Trails.imp {rel rel' : List Event → List Event → Prop} (h : s.Trails rel answers ns m q)
    (himp : ∀ ts, rel (receipts ns ++ s.buffer) ts → rel' (receipts ns ++ s.buffer) ts) :
    s.Trails rel' answers ns m q := by
  cases hphase : s.phase with
  | answered a | resuming a =>
      rw [Trails, hphase] at h ⊢
      obtain ⟨name, hask, hevents, hanswer⟩ := h
      exact ⟨name, hask, himp _ hevents, hanswer⟩
  | _ =>
      rw [Trails, hphase] at h ⊢
      exact ⟨h.1, himp _ h.2.1, h.2.2⟩

/-- The session has been started on the program `p`, and its events are those of the run, thinned
behind `es₀`. -/
structure Thins (i : Interpreter) (p : Program) (answers : List Text) (es₀ : List Event)
    (ns : List Notice) (s : Session) : Prop where
  limit : s.limit = i.limit
  trails : ∃ n m q,
    Machine.Path (Queue.host {}) i.limit n (.ofProgram p) (Queue.start {} answers) m q
      ∧ ((q.cancelled = false ∧ s.Trails (Event.Thinned es₀) answers ns m q)
        ∨ (s.Lost ∧ Event.Thinned es₀ (receipts ns ++ s.buffer) q.events))

/-- What has mirrored the run up to now is on its trail from now on. -/
lemma Follows.thins (h : Follows i p answers ns s) :
    Thins i p answers (receipts ns ++ s.buffer) ns s := by
  obtain ⟨hlimit, -, n, m, q, hp, hq, hm⟩ := h
  refine ⟨hlimit, n, m, q, hp, Or.inl ⟨hq, (mirrors_iff_trails.mp hm).imp ?_⟩⟩
  rintro ts rfl
  exact .refl _

/-- **Whatever happens**, a cancellation included, the events are those of the run, thinned. -/
lemma Thins.step (h : Thins i p answers es₀ ns s) (ho : Orderly ns s) (hd : Does s s' ms)
    (ha : Listed answers (ns ++ ms)) : Thins i p answers es₀ (ns ++ ms) s' := by
  obtain ⟨hlimit, n, m, q, hp, ⟨hq, htrails⟩ | ⟨hlost, hevents⟩⟩ := h
  · obtain ⟨k, m', q', hp', h'⟩ | ⟨-, -, hlost, k, m', q', hp', hevents⟩ :=
      htrails.step (fun es ts e h => h.snoc e) (fun _ _ es ts text h => h.skip text) hq ho hd ha
    · rw [hlimit] at hp'
      exact ⟨hd.limit.trans hlimit, n + k, m', q', hp.trans hp', Or.inl h'⟩
    · rw [hlimit] at hp'
      exact ⟨hd.limit.trans hlimit, n + k, m', q', hp.trans hp', Or.inr ⟨hlost, hevents⟩⟩
  · obtain ⟨hlost', hsame⟩ := hlost.step hd ns
    exact ⟨hd.limit.trans hlimit, n, m, q, hp, Or.inr ⟨hlost', hsame ▸ hevents⟩⟩

lemma Thins.of_runs {ns₀ : List Notice} {s₀ : Session} (ho : Orderly ns₀ s₀)
    (h₀ : Thins i p answers es₀ ns₀ s₀) (h : Runs s₀ ns s) (ha : Listed answers (ns₀ ++ ns)) :
    Thins i p answers es₀ (ns₀ ++ ns) s := by
  refine (h.invariant (P := fun ns s => Orderly (ns₀ ++ ns) s ∧ (Listed answers (ns₀ ++ ns) →
    Thins i p answers es₀ (ns₀ ++ ns) s)) ?_ ?_).2 ha
  · rw [List.append_nil]
    exact ⟨ho, fun _ => h₀⟩
  · rintro ns s₁ ms s₂ ⟨ho, hthins⟩ hd
    rw [← List.append_assoc]
    exact ⟨ho.step hd, fun ha => (hthins ha.of_append).step ho hd ha⟩

/-- The events of a session, thinned, are those that the run has shown at some moment. -/
lemma Thins.shows (h : Thins i p answers es₀ ns s) :
    ∃ ts, i.Shows answers (some p) ts ∧ Event.Thinned es₀ (receipts ns ++ s.buffer) ts := by
  obtain ⟨hlimit, n, m, q, hp, ⟨hq, htrails⟩ | ⟨-, hevents⟩⟩ := h
  · -- a prompt in the buffer is shown by the move that takes its answer
    have hasked : ∀ name, m.step s.limit false = .ask name s.machine →
        Event.Thinned es₀ (receipts ns ++ s.buffer) (q.events ++ [.prompt (promptText name)]) →
        ∃ ts, i.Shows answers (some p) ts ∧ Event.Thinned es₀ (receipts ns ++ s.buffer) ts := by
      intro name hask hevents
      rw [hlimit] at hask
      refine ⟨_, ⟨_, _, _, hp.trans (.step (Queue.move_ask hq hask) (.refl _ _)), rfl⟩, ?_⟩
      rwa [Queue.events, List.reverse_cons]
    cases hphase : s.phase with
    | awaiting name =>
        rw [Trails, hphase] at htrails
        exact hasked name htrails.1 htrails.2.1
    | answered a | resuming a =>
        rw [Trails, hphase] at htrails
        obtain ⟨name, hask, hevents, -⟩ := htrails
        exact hasked name hask hevents
    | _ =>
        rw [Trails, hphase] at htrails
        exact ⟨q.events, ⟨n, m, q, hp, rfl⟩, htrails.2.1⟩
  · exact ⟨q.events, ⟨n, m, q, hp, rfl⟩, hevents⟩

end thinning

/-- **Of a cancelled session outputs may be missing, but nothing else.** A host answers the prompts
of a program from a list and cancels whenever it likes. What it has received and what is in the
buffer when it first cancels, the run with these answers that is never cancelled has shown at some
moment. What comes behind that is, in order, what this run shows next, except that outputs may be
missing; no prompt is. -/
theorem cancelled_session_thinned (i : Interpreter) (p : Option Program) (answers : List Text)
    {ns₀ ns : List Notice} {s₀ s : Session} (h₀ : Runs (start i p) ns₀ s₀)
    (hpatient : .cancelled ∉ ns₀) (h : Runs s₀ ns s) (ha : Listed answers (ns₀ ++ ns)) :
    i.Shows answers p (receipts ns₀ ++ s₀.buffer)
      ∧ ∃ kept all, receipts (ns₀ ++ ns) ++ s.buffer = receipts ns₀ ++ s₀.buffer ++ kept
          ∧ i.Shows answers p (receipts ns₀ ++ s₀.buffer ++ all)
          ∧ kept.Sublist all ∧ Event.prompts kept = Event.prompts all := by
  cases p with
  | none =>
      have h₁ := (Vacant.of_runs h₀).events
      have h₂ := (Vacant.of_runs (h₀.trans h)).events
      rw [h₁, h₂]
      exact ⟨rfl, [], [], rfl, rfl, .slnil, rfl⟩
  | some p =>
      have hfollows := Follows.of_runs h₀ ⟨hpatient, ha.of_append⟩
      refine ⟨hfollows.shows, ?_⟩
      obtain ⟨ts, hshows, kept, all, hkept, rfl, hsub, hprompts⟩ :=
        (hfollows.thins.of_runs (Orderly.of_runs h₀) h ha).shows
      exact ⟨kept, all, hkept, hshows, hsub, hprompts⟩

/-- A program that prints two texts more than the buffer holds. -/
def flood : Program :=
  ⟨none, List.replicate 16 (.print none (.string none [0x61]))
    ++ [.print none (.string none [0x62]), .print none (.string none [0x63])]⟩

/-- The program works until the buffer is full and the next output has to wait. -/
def filling : List Act := List.replicate 100 .work

/-- The host cancels, the output that waits is dropped, the host makes room, and the program writes
its last output. -/
def overtaking : List Act := [.cancel, .quit, .receive] ++ List.replicate 6 .work

set_option maxRecDepth 4000 in
/-- What the two parts of the session are. -/
lemma follow_flood :
    ∃ s₀ s, (start (.new none) (some flood)).follow filling = some (s₀, [])
      ∧ s₀.follow overtaking = some (s, [.cancelled, .received (.output [0x61])])
      ∧ s₀.buffer = List.replicate 16 (.output [0x61])
      ∧ s.buffer = List.replicate 15 (.output [0x61]) ++ [.output [0x63]] :=
  ⟨_, _, rfl, rfl, rfl, rfl⟩

/-- **A cancelled session can have gaps**: it is not so that what the host has received and what is
in the buffer is always a beginning of what the run without a cancellation shows. -/
theorem cancelled_session_has_gaps :
    ¬ ∀ (i : Interpreter) (p : Program) (answers : List Text) (ns : List Notice) (s : Session),
      Runs (start i (some p)) ns s → Listed answers ns →
      ∀ fuel out, i.run (Queue.host {}) fuel (some p) (Queue.start {} answers) = some out →
        receipts ns ++ s.buffer <+: out.host.events := by
  intro hclaim
  obtain ⟨s₀, s, hfilling, hovertaking, -, hbuffer⟩ := follow_flood
  have hruns := (Runs.refl.follow hfilling).follow hovertaking
  have hlisted : Listed [] [.cancelled, .received (.output [0x61])] := by
    intro k text hmem
    simp [during] at hmem
  obtain ⟨out, hout, hevents⟩ : ∃ out, (Interpreter.new none).run (Queue.host {}) 120 (some flood)
      (Queue.start {} []) = some out
      ∧ out.host.events = List.replicate 16 (.output [0x61]) ++ [.output [0x62], .output [0x63]] :=
    ⟨_, rfl, rfl⟩
  have hprefix := hclaim _ flood [] _ s hruns hlisted 120 out hout
  rw [hevents, hbuffer] at hprefix
  exact absurd hprefix (by decide)

/-- Of this session one output is missing behind those that were there at the cancellation. -/
theorem cancelled_session_thinned_flood :
    ∃ ns s, Runs (start (.new none) (some flood)) ns s
      ∧ receipts ns ++ s.buffer = List.replicate 16 (.output [0x61]) ++ [.output [0x63]]
      ∧ ∃ all, (Interpreter.new none).Shows [] (some flood)
          (List.replicate 16 (.output [0x61]) ++ all)
        ∧ [.output [0x63]].Sublist all ∧ Event.prompts all = [] := by
  obtain ⟨s₀, s, hfilling, hovertaking, hbuffer₀, hbuffer⟩ := follow_flood
  have h₀ := Runs.refl.follow hfilling
  have h := Runs.refl.follow hovertaking
  have hlisted : Listed [] [.cancelled, .received (.output [0x61])] := by
    intro k text hmem
    simp [during] at hmem
  have hevents : receipts [.cancelled, .received (.output [0x61])] ++ s.buffer
      = List.replicate 16 (.output [0x61]) ++ [.output [0x63]] := by
    rw [hbuffer]
    rfl
  obtain ⟨-, kept, all, hkept, hshows, hsub, hprompts⟩ :=
    cancelled_session_thinned (.new none) (some flood) [] h₀ (by simp) h hlisted
  have hfull : receipts ([] ++ []) ++ s₀.buffer = List.replicate 16 (.output [0x61]) := hbuffer₀
  rw [hfull] at hkept hshows
  obtain rfl : [.output [0x63]] = kept := List.append_cancel_left (hevents.symm.trans hkept)
  exact ⟨_, s, h₀.trans h, hevents, all, hshows, hsub, hprompts.symm⟩

end Session

end LessonLang
