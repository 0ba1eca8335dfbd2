import Mathlib.Tactic
import LessonLang.Proofs.Grammar

/-!
What the small rules read.

* A rule made of two reads what the first one reads and then what the second one reads
  (`bind_ok`).
* `expect_ok` and `next?_ok` say exactly when the two rules for single tokens succeed and with
  what; `Clear` is the condition under which a token that may be left out is not there.
* An end of input is like an empty list: `Inner` tokens have none among them, and `sees` is the next
  token that is none.
* `Yields x P` says that `x` reads no end of input, and that what it reads and what it makes of it
  are related by `P`. It is shown of a sequence of rules by walking along it (`Yields.bind`).
-/

namespace LessonLang

namespace Rule

variable {α β : Type}

/-- The next token, if there is one, is of none of the kinds `ks`. -/
def Clear (ks : List Kind) (ts : List Token) : Prop := ∀ t ∈ ts.head?, t.kind ∉ ks

lemma clear_cons {ks : List Kind} {t : Token} {ts : List Token} :
    Clear ks (t :: ts) ↔ t.kind ∉ ks := by
  simp [Clear]

@[simp] lemma clear_nil {ks : List Kind} : Clear ks [] := by simp [Clear]

/-- What is clear of some kinds is clear of fewer. -/
lemma Clear.mono {ks ks' : List Kind} {ts : List Token} (h : Clear ks' ts) (hks : ks ⊆ ks') :
    Clear ks ts :=
  fun t ht hk => h t ht (hks hk)

/-! ### Ends of input -/

/-- None of the tokens is an end of input. -/
def Inner (ts : List Token) : Prop := ∀ t ∈ ts, t.kind ≠ .eof

@[simp] lemma inner_nil : Inner [] := by simp [Inner]

@[simp] lemma inner_cons {t : Token} {ts : List Token} :
    Inner (t :: ts) ↔ t.kind ≠ .eof ∧ Inner ts := by
  simp [Inner]

@[simp] lemma inner_append {ts us : List Token} : Inner (ts ++ us) ↔ Inner ts ∧ Inner us := by
  simp only [Inner, List.mem_append, or_imp, forall_and]

/-- **The next token**, if it is no end of input. -/
def sees (ts : List Token) : Option Token := ts.head?.filter fun t => t.kind != .eof

@[simp] lemma sees_nil : sees [] = none := rfl

lemma sees_of_ne {t : Token} (ht : t.kind ≠ .eof) (ts : List Token) : sees (t :: ts) = some t := by
  simp [sees, ht]

lemma sees_of_eof {t : Token} (ht : t.kind = .eof) (ts : List Token) : sees (t :: ts) = none := by
  simp [sees, ht]

/-- What is seen is the next token, if that is no end of input. -/
lemma sees_eq_some {t : Token} {ts : List Token} :
    sees ts = some t ↔ ts.head? = some t ∧ t.kind ≠ .eof := by
  simp [sees, Option.filter_eq_some_iff]

/-- Behind tokens of which none is an end of input, only the next one that is none is seen. -/
lemma sees_append {us r r' : List Token} (hus : Inner us) (h : sees r = sees r') :
    sees (us ++ r) = sees (us ++ r') := by
  cases us with
  | nil => exact h
  | cons u us =>
      have hu := (inner_cons.mp hus).1
      rw [List.cons_append, List.cons_append, sees_of_ne hu, sees_of_ne hu]

/-- Whether the next token is of one of some kinds depends on the one that is seen alone. -/
lemma clear_congr {ks : List Kind} {r r' : List Token} (hks : .eof ∉ ks) (hr : sees r = sees r')
    (h : Clear ks r) : Clear ks r' := by
  intro t ht hk
  have hsees : sees r = some t := by
    rw [hr, sees_eq_some]
    exact ⟨ht, ne_of_mem_of_not_mem hk hks⟩
  exact h t (sees_eq_some.mp hsees).1 hk

/-! ### Sequences of rules -/

/-- **A sequence of two rules** succeeds if the first one does, and the second one on what it
left. -/
lemma bind_ok {x : Rule α} {f : α → Rule β} {ts rest : List Token} {b : β} :
    (x >>= f) ts = .ok (b, rest)
      ↔ ∃ a mid, x ts = .ok (a, mid) ∧ f a mid = .ok (b, rest) := by
  show (x ts >>= fun r => f r.1 r.2) = _ ↔ _
  cases hx : x ts with
  | error e => simp [bind, Except.bind]
  | ok r => simp [bind, Except.bind, Prod.ext_iff]

/-- A sequence goes on with what its first rule yields. -/
lemma bind_of_ok {x : Rule α} {f : α → Rule β} {ts mid : List Token} {a : α}
    (h : x ts = .ok (a, mid)) : (x >>= f) ts = f a mid := by
  show (x ts >>= fun r => f r.1 r.2) = _
  rw [h]
  rfl

/-- A rule that reads nothing leaves the tokens as they are. -/
lemma pure_ok {a b : α} {ts rest : List Token} :
    (pure a : Rule α) ts = .ok (b, rest) ↔ b = a ∧ rest = ts := by
  show Except.ok (a, ts) = .ok (b, rest) ↔ _
  simp [eq_comm]

lemma fail_ok {e : Expected} {d : Detail} {a : α} {ts rest : List Token} :
    (fail e d : Rule α) ts ≠ .ok (a, rest) := by
  simp [fail]

/-! ### Single tokens -/

/-- A token is read exactly if it is there and has the kind that is asked for. -/
lemma expect_ok {k : Kind} {t : Token} {ts rest : List Token} :
    expect k ts = .ok (t, rest) ↔ ts = t :: rest ∧ t.kind = k := by
  cases ts with
  | nil => simp [expect]
  | cons u us =>
      by_cases h : u.kind = k
      · simp only [expect, h, beq_self_eq_true, if_true, Except.ok.injEq, Prod.mk.injEq,
          List.cons.injEq]
        constructor
        · rintro ⟨rfl, rfl⟩
          exact ⟨⟨rfl, rfl⟩, h⟩
        · exact fun hu => hu.1
      · simp only [expect, beq_iff_eq, h, if_false, List.cons.injEq, reduceCtorEq, false_iff]
        rintro ⟨⟨rfl, rfl⟩, hk⟩
        exact h hk

/-- A token of the kind that is asked for is read. -/
lemma expect_cons {k : Kind} {t : Token} {ts : List Token} (ht : t.kind = k) :
    expect k (t :: ts) = .ok (t, ts) :=
  expect_ok.mpr ⟨rfl, ht⟩

/-- It is missed in front of any other token. -/
lemma expect_error {k : Kind} {ts : List Token} {f : Mismatch} :
    expect k ts = .error f ↔ f = ⟨.kind k, .plain, ts⟩ ∧ Clear [k] ts := by
  cases ts with
  | nil => simp [expect, @eq_comm _ f]
  | cons t ts => by_cases h : t.kind = k <;> simp [expect, clear_cons, h, @eq_comm _ f]

/-- A token of one of the kinds is read. -/
lemma next?_cons {ks : List Kind} {t : Token} {ts : List Token} (ht : t.kind ∈ ks) :
    next? ks (t :: ts) = .ok (some t, ts) := by
  simp [next?, ht]

/-- Where none of the kinds follows, nothing is read. -/
lemma next?_of_clear {ks : List Kind} {ts : List Token} (h : Clear ks ts) :
    next? ks ts = .ok (none, ts) := by
  cases ts with
  | nil => rfl
  | cons t ts => simp [next?, clear_cons.mp h]

/-- A token that may be left out is read exactly if it is there. -/
lemma next?_ok {ks : List Kind} {o : Option Token} {ts rest : List Token} :
    next? ks ts = .ok (o, rest)
      ↔ (∃ t, o = some t ∧ ts = t :: rest ∧ t.kind ∈ ks)
        ∨ (o = none ∧ ts = rest ∧ Clear ks rest) := by
  cases ts with
  | nil =>
      constructor
      · intro he
        obtain ⟨rfl, rfl⟩ := Prod.mk.inj (Except.ok.inj he)
        exact Or.inr ⟨rfl, rfl, clear_nil⟩
      · rintro (⟨t, -, hu, -⟩ | ⟨rfl, rfl, -⟩)
        · exact absurd hu (by simp)
        · rfl
  | cons t ts =>
      by_cases h : t.kind ∈ ks
      · rw [next?_cons h]
        constructor
        · intro he
          obtain ⟨rfl, rfl⟩ := Prod.mk.inj (Except.ok.inj he)
          exact Or.inl ⟨t, rfl, rfl, h⟩
        · rintro (⟨u, rfl, hu, -⟩ | ⟨-, rfl, hc⟩)
          · obtain ⟨rfl, rfl⟩ := List.cons.inj hu
            rfl
          · exact absurd h (clear_cons.mp hc)
      · rw [next?_of_clear (clear_cons.mpr h)]
        constructor
        · intro he
          obtain ⟨rfl, rfl⟩ := Prod.mk.inj (Except.ok.inj he)
          exact Or.inr ⟨rfl, rfl, clear_cons.mpr h⟩
        · rintro (⟨u, rfl, hu, hk⟩ | ⟨rfl, rfl, -⟩)
          · obtain ⟨rfl, rfl⟩ := List.cons.inj hu
            exact absurd hk h
          · rfl

lemma at?_cons {k : Kind} {t : Token} {ts : List Token} :
    at? k (t :: ts) = .ok (t.kind == k, t :: ts) := by
  simp [at?]

/-- Where the kind does not follow, the look says so. -/
lemma at?_of_clear {k : Kind} {ts : List Token} (h : Clear [k] ts) :
    at? k ts = .ok (false, ts) := by
  cases ts with
  | nil => rfl
  | cons t ts =>
      have hk : t.kind ≠ k := by simpa using clear_cons.mp h
      simp [at?, hk]

/-- Looking for a token that is no end of input depends on the one that is seen alone. -/
lemma at?_eq {k : Kind} (hk : k ≠ .eof) (ts : List Token) :
    at? k ts = .ok ((sees ts).any fun t => t.kind == k, ts) := by
  cases ts with
  | nil => rfl
  | cons t ts =>
      by_cases ht : t.kind = .eof
      · simp [at?, sees_of_eof ht, ht, hk.symm]
      · simp [at?, sees_of_ne ht]

/-- Nothing is left to read exactly if no token is seen. -/
lemma atEnd_eq (ts : List Token) : atEnd ts = .ok ((sees ts).isNone, ts) := by
  cases ts with
  | nil => rfl
  | cons t ts =>
      by_cases ht : t.kind = .eof
      · simp [atEnd, sees_of_eof ht, ht]
      · simp [atEnd, sees_of_ne ht, ht]

/-- Any other token is not the end. -/
lemma atEnd_of_ne {t : Token} (ht : t.kind ≠ .eof) (ts : List Token) :
    atEnd (t :: ts) = .ok (false, t :: ts) := by
  rw [atEnd_eq, sees_of_ne ht]
  rfl

/-! ### What a rule yields -/

/-- **Whatever `x` reads is related to its result by `P`** and has no end of input in it, and the
other tokens are left as they were. -/
def Yields (x : Rule α) (P : List Token → α → Prop) : Prop :=
  ∀ ts a rest, x ts = .ok (a, rest) → ∃ us, ts = us ++ rest ∧ Inner us ∧ P us a

/-- **A sequence yields** what its second rule yields behind the first. -/
lemma Yields.bind {x : Rule α} {f : α → Rule β} {P : List Token → α → Prop}
    {Q : List Token → β → Prop} (hx : Yields x P)
    (hf : ∀ us a, P us a → Yields (f a) fun vs b => Q (us ++ vs) b) : Yields (x >>= f) Q := by
  intro ts b rest h
  obtain ⟨a, mid, ha, hb⟩ := bind_ok.mp h
  obtain ⟨us, rfl, hus, hP⟩ := hx ts a mid ha
  obtain ⟨vs, rfl, hvs, hQ⟩ := hf us a hP mid b rest hb
  exact ⟨us ++ vs, (List.append_assoc ..).symm, inner_append.mpr ⟨hus, hvs⟩, hQ⟩

/-- What yields one language yields a larger one. -/
lemma Yields.imp {x : Rule α} {P Q : List Token → α → Prop} (hx : Yields x P)
    (h : ∀ us a, P us a → Q us a) : Yields x Q := by
  intro ts a rest ha
  obtain ⟨us, hts, hus, hP⟩ := hx ts a rest ha
  exact ⟨us, hts, hus, h us a hP⟩

lemma yields_pure {a : α} {Q : List Token → α → Prop} (h : Q [] a) : Yields (pure a) Q := by
  intro ts b rest hb
  obtain ⟨rfl, rfl⟩ := pure_ok.mp hb
  exact ⟨[], rfl, inner_nil, h⟩

lemma yields_fail {e : Expected} {d : Detail} {Q : List Token → α → Prop} :
    Yields (fail e d) Q :=
  fun _ _ _ h => absurd h fail_ok

/-- To ask for a token of a kind yields such a token. -/
lemma yields_expect {k : Kind} (hk : k ≠ .eof) :
    Yields (expect k) fun us t => us = [t] ∧ t.kind = k := by
  intro ts t rest h
  obtain ⟨rfl, ht⟩ := expect_ok.mp h
  exact ⟨[t], rfl, by simpa [ht] using hk, rfl, ht⟩

/-- To read a token if it is of certain kinds yields such a token or nothing. -/
lemma yields_next? {ks : List Kind} (hks : .eof ∉ ks) :
    Yields (next? ks) fun us o =>
      (∃ t, o = some t ∧ us = [t] ∧ t.kind ∈ ks) ∨ (o = none ∧ us = []) := by
  intro ts o rest h
  rcases next?_ok.mp h with ⟨t, rfl, rfl, ht⟩ | ⟨rfl, rfl, -⟩
  · exact ⟨[t], rfl, by simpa using ne_of_mem_of_not_mem ht hks, Or.inl ⟨t, rfl, rfl, ht⟩⟩
  · exact ⟨[], rfl, inner_nil, Or.inr ⟨rfl, rfl⟩⟩

end Rule

end LessonLang
