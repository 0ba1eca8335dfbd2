import LessonLang.Proofs.Grammar.Sound

/-!
The parser does not read beyond the first end of input.

* `Rule.Honest.cut_ok`, `Rule.Honest.cut_error`: an honest rule makes the same of tokens without an
  end of input whatever follows them, as long as it is the end of the list or an end of input.
* `Program.parse_eq`: so the parser sees the tokens in front of the first end of input
  (`Program.significant`) and that end of input (`Program.endToken`).
* `Program.derives_of_parse`: a list of tokens that the parser accepts is derived by the grammar.
* `Program.found_of_parse`: the token that a parse error reports is one of those that were parsed, or
  the end of input, and the error has its place.
-/

namespace LessonLang

namespace Rule

variable {α : Type} {x : Rule α} {D : List Token → α → Prop}

/-- Tokens in front of an end of input are a part of all that stand in front of it. -/
lemma exists_of_append_eq {us vs r rest : List Token} (h : us ++ r = vs ++ rest) (hvs : Inner vs)
    (hr : sees r = none) : ∃ ws, us = vs ++ ws ∧ rest = ws ++ r := by
  obtain ⟨as, hvs', hr'⟩ | hws := List.append_eq_append_iff.mp h
  · cases as with
    | nil => exact ⟨[], by simpa using hvs'.symm, by simpa using hr'.symm⟩
    | cons t as =>
        have ht : t.kind ≠ .eof := hvs t (by simp [hvs'])
        rw [hr', List.cons_append, sees_of_ne ht] at hr
        exact absurd hr (by simp)
  · exact hws

/-- **What an honest rule reads** does not depend on what follows the end of input. -/
lemma Honest.cut_ok (hx : Honest x D) {us r r' rest : List Token} {a : α} (hus : Inner us)
    (hr : sees r = none) (hr' : sees r' = none) (h : x (us ++ r) = .ok (a, rest)) :
    ∃ ws, Inner ws ∧ rest = ws ++ r ∧ x (us ++ r') = .ok (a, ws ++ r') := by
  obtain ⟨vs, hts, hvs, -⟩ := hx.yields _ a rest h
  obtain ⟨ws, rfl, rfl⟩ := exists_of_append_eq hts hvs hr
  have hws : Inner ws := (inner_append.mp hus).2
  exact ⟨ws, hws, rfl, hx.looks_ok hws (hr.trans hr'.symm) h⟩

/-- **Where an honest rule gives up** does not depend on what follows the end of input. -/
lemma Honest.cut_error (hx : Honest x D) {us r r' rest : List Token} {e : Expected} {d : Detail}
    (hus : Inner us) (hr : sees r = none) (hr' : sees r' = none)
    (h : x (us ++ r) = .error ⟨e, d, rest⟩) :
    ∃ ws, Inner ws ∧ rest = ws ++ r ∧ x (us ++ r') = .error ⟨e, d, ws ++ r'⟩ := by
  obtain ⟨vs, hts, hvs, -⟩ := hx.blames _ _ h
  obtain ⟨ws, rfl, rfl⟩ := exists_of_append_eq hts hvs hr
  have hws : Inner ws := (inner_append.mp hus).2
  exact ⟨ws, hws, rfl, hx.looks_error hws (hr.trans hr'.symm) h⟩

end Rule

open Rule

namespace Program

/-! ### The rule for programs -/

/-- The rule for programs reads all that stands in front of the end of input. -/
lemma rule_cut_ok {n : Nat} {us r r' rest : List Token} {p : Program} (hus : Inner us)
    (hr : sees r = none) (hr' : sees r' = none) (h : rule n (us ++ r) = .ok (p, rest)) :
    rest = r ∧ rule n (us ++ r') = .ok (p, r') := by
  obtain ⟨hopen, hrest⟩ := rule_ok.mp h
  obtain ⟨ws, hws, rfl, hopen'⟩ := (honest_opening n).cut_ok hus hr hr' hopen
  obtain rfl : ws = [] := by
    cases ws with
    | nil => rfl
    | cons t ws =>
        rw [List.cons_append, sees_of_ne (inner_cons.mp hws).1] at hrest
        exact absurd hrest (by simp)
  exact ⟨rfl, rule_ok.mpr ⟨hopen', hr'⟩⟩

/-- The rule for programs gives up in front of the same tokens. -/
lemma rule_cut_error {n : Nat} {us r r' rest : List Token} {e : Expected} {d : Detail}
    (hus : Inner us) (hr : sees r = none) (hr' : sees r' = none)
    (h : rule n (us ++ r) = .error ⟨e, d, rest⟩) :
    ∃ ws, rest = ws ++ r ∧ rule n (us ++ r') = .error ⟨e, d, ws ++ r'⟩ := by
  obtain hopen | ⟨p, mid, hopen, hmid, hf⟩ := rule_error.mp h
  · obtain ⟨ws, -, rfl, hopen'⟩ := (honest_opening n).cut_error hus hr hr' hopen
    exact ⟨ws, rfl, rule_error.mpr (Or.inl hopen')⟩
  · obtain ⟨rfl, rfl, rfl⟩ := Mismatch.mk.inj hf
    obtain ⟨ws, hws, rfl, hopen'⟩ := (honest_opening n).cut_ok hus hr hr' hopen
    rw [sees_append hws (hr.trans hr'.symm)] at hmid
    exact ⟨ws, rfl, rule_error.mpr (Or.inr ⟨p, _, hopen', hmid, rfl⟩)⟩

/-- Tokens without an end of input are read as a whole. -/
lemma derives_of_rule_inner {n : Nat} {ts rest : List Token} {p : Program} (hts : Inner ts)
    (h : rule n ts = .ok (p, rest)) : Derives ts p := by
  rw [← List.append_nil ts] at h
  obtain ⟨rfl, -⟩ := rule_cut_ok hts sees_nil sees_nil h
  obtain ⟨us, hus, hp⟩ := derives_of_rule h
  rwa [List.append_cancel_right hus]

/-! ### Significant tokens -/

lemma significant_inner (ts : List Token) : Inner (significant ts) := by
  intro t ht
  simpa using List.all_eq_true.mp List.all_takeWhile t ht

lemma significant_append {us vs : List Token} (h : Inner us) :
    significant (us ++ vs) = us ++ significant vs :=
  List.takeWhile_append_of_pos fun t ht => by simpa using h t ht

lemma significant_of_inner {ts : List Token} (h : Inner ts) : significant ts = ts := by
  have hnil : significant (ts ++ []) = ts ++ significant [] := significant_append h
  simpa [significant] using hnil

lemma significant_eof {t : Token} {ts : List Token} (ht : t.kind = .eof) :
    significant (t :: ts) = [] := by
  simp [significant, ht]

/-- Without an end of input, it is made up at the place of the last token. -/
lemma endToken_of_inner {ts : List Token} (h : Inner ts) :
    endToken ts = Token.eof ((ts.getLast?.map Token.pos).getD Pos.unset) := by
  have hnone : ts.find? (fun t => t.kind == .eof) = none :=
    List.find?_eq_none.mpr fun t ht => by simpa using h t ht
  rw [endToken, hnone]

/-- The first end of input is the one that the parser sees. -/
lemma endToken_append {us r : List Token} {t : Token} (hus : Inner us) (ht : t.kind = .eof) :
    endToken (us ++ t :: r) = t := by
  have hfind : (us ++ t :: r).find? (fun t => t.kind == .eof) = some t := by
    refine List.find?_eq_some_iff_append.mpr ⟨by simpa using ht, us, r, rfl, fun u hu => ?_⟩
    simpa using hus u hu
  rw [endToken, hfind]

/-- The end of input that the parser sees is the token behind those that it reads, if there is
one. -/
lemma significant_or_eof (ts : List Token) :
    (ts = significant ts ∧ endToken ts = Token.eof ((ts.getLast?.map Token.pos).getD Pos.unset))
      ∨ ∃ r, ts = significant ts ++ endToken ts :: r ∧ (endToken ts).kind = .eof := by
  by_cases h : Inner ts
  · exact Or.inl ⟨(significant_of_inner h).symm, endToken_of_inner h⟩
  · refine Or.inr ?_
    obtain ⟨t, hfind⟩ : ∃ t, ts.find? (fun t => t.kind == .eof) = some t := by
      rw [← Option.isSome_iff_exists, List.find?_isSome]
      simpa [Rule.Inner] using h
    obtain ⟨ht, us, r, rfl, hus⟩ := List.find?_eq_some_iff_append.mp hfind
    have hkind : t.kind = .eof := by simpa using ht
    have hinner : Inner us := fun u hu => by simpa using hus u hu
    rw [endToken_append hinner hkind, significant_append hinner, significant_eof hkind,
      List.append_nil]
    exact ⟨r, rfl, hkind⟩

/-! ### What the parser sees -/

/-- **What is reported** of an outcome: the program, or the token at which no program goes on. It is
`last` if there is none left. -/
def reported (last : Token) : Except Mismatch (Program × List Token) → Except ParseError Program
  | .ok (p, _) => .ok p
  | .error f => .error ⟨f.expected, f.detail, f.rest.head?.getD last, (f.rest.head?.getD last).pos⟩

lemma reported_ok {last : Token} {o : Except Mismatch (Program × List Token)} {p : Program} :
    reported last o = .ok p ↔ ∃ rest, o = .ok (p, rest) := by
  obtain f | ⟨q, rest⟩ := o <;> simp [reported]

lemma reported_error {last : Token} {o : Except Mismatch (Program × List Token)} {e : ParseError} :
    reported last o = .error e
      ↔ ∃ f, o = .error f
        ∧ e = ⟨f.expected, f.detail, f.rest.head?.getD last, (f.rest.head?.getD last).pos⟩ := by
  obtain f | ⟨q, rest⟩ := o <;> simp [reported, @eq_comm _ e]

/-- **The parser sees the significant tokens**, and behind them the end of input. -/
lemma parse_eq (ts : List Token) :
    parse ts = reported (endToken ts) (rule (budget ts.length) (significant ts)) := by
  obtain ⟨r, hr, hts, hend⟩ : ∃ r, sees r = none ∧ ts = significant ts ++ r
      ∧ r.head?.getD (Token.eof ((ts.getLast?.map Token.pos).getD Pos.unset)) = endToken ts := by
    obtain ⟨hts, hend⟩ | ⟨r, hts, hend⟩ := significant_or_eof ts
    · exact ⟨[], rfl, by rwa [List.append_nil], hend.symm⟩
    · exact ⟨endToken ts :: r, sees_of_eof hend r, hts, rfl⟩
  have hinner := significant_inner ts
  have hwhole : parse ts = reported (Token.eof ((ts.getLast?.map Token.pos).getD Pos.unset))
      (rule (budget ts.length) (significant ts ++ r)) := by
    rw [← hts, parse]
    rfl
  rw [hwhole]
  cases hcut : rule (budget ts.length) (significant ts) with
  | ok o =>
      obtain ⟨p, rest⟩ := o
      rw [← List.append_nil (significant ts)] at hcut
      rw [(rule_cut_ok hinner sees_nil hr hcut).2]
      rfl
  | error f =>
      obtain ⟨e, d, rest⟩ := f
      rw [← List.append_nil (significant ts)] at hcut
      obtain ⟨ws, rfl, hrule⟩ := rule_cut_error hinner sees_nil hr hcut
      rw [hrule, reported, reported, List.append_nil]
      -- the token that is found is among the significant ones or the first one behind them
      cases ws with
      | nil => rw [List.nil_append, hend]; rfl
      | cons t ws => rfl

/-- **A program that is parsed is derived** by the grammar from the tokens in front of the end of
input. -/
lemma derives_of_parse {ts : List Token} {p : Program} (h : parse ts = .ok p) :
    Derives (significant ts) p := by
  rw [parse_eq, reported_ok] at h
  obtain ⟨rest, hrule⟩ := h
  exact derives_of_rule_inner (significant_inner ts) hrule

/-- **The token that a parse error reports** is one of those that were parsed or the end of input,
and the place of the error is its place. -/
lemma found_of_parse {ts : List Token} {e : ParseError} (h : parse ts = .error e) :
    (e.found ∈ ts ∨ e.found = endToken ts) ∧ e.pos = e.found.pos := by
  rw [parse_eq, reported_error] at h
  obtain ⟨f, hf, rfl⟩ := h
  refine ⟨?_, rfl⟩
  have hrest : f.rest <:+ significant ts := by
    obtain ⟨us, hus, -⟩ := blames_of_rule hf
    exact ⟨us, hus.symm⟩
  cases hhead : f.rest.head? with
  | none => exact Or.inr rfl
  | some t =>
      have hmem : t ∈ significant ts := hrest.subset (List.mem_of_head? hhead)
      exact Or.inl (List.takeWhile_subset _ hmem)

/-- The end of input is a token if there is one. -/
lemma endToken_mem {ts : List Token} (h : ∃ t ∈ ts, t.kind = .eof) : endToken ts ∈ ts := by
  rw [endToken]
  split
  next t ht => exact List.mem_of_find?_eq_some ht
  next hnone =>
    obtain ⟨t, hmem, ht⟩ := h
    exact absurd ht (by simpa using List.find?_eq_none.mp hnone t hmem)

end Program

end LessonLang
