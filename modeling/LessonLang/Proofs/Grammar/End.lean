import LessonLang.Proofs.Grammar.Complete
import LessonLang.Proofs.Grammar.Layout

/-!
Only the tokens up to the first end of input matter.

* `Program.rule_error_of_budget`, `Program.reported_of_budget`: any budget that suffices will do.
* `Program.parse_congr`: so lists of tokens with the same significant tokens and the same end of input
  are parsed alike.
* `Program.parse_to_end`: the end of input may be left out if it is at the place of the last token,
  and whatever follows it may be left out too.
-/

namespace LessonLang

open Rule

namespace Program

/-- What cannot be read with one sufficient budget fails in the same way with any other. -/
lemma rule_error_of_budget {n n' : Nat} {ts : List Token} {f : Mismatch}
    (hn : budget ts.length ≤ min n n') (h : rule n ts = .error f) : rule n' ts = .error f := by
  have hagree := twin hn ts ts (allAlike_refl ts) le_rfl
  rw [h] at hagree
  match hr : rule n' ts with
  | .ok _ => rw [hr] at hagree; exact hagree.elim
  | .error g =>
      rw [hr] at hagree
      obtain ⟨hexpected, hdetail, hrest⟩ := hagree
      -- the two leave equally many of the same tokens
      obtain ⟨us, hus, -⟩ := blames_of_rule h
      obtain ⟨vs, hvs, -⟩ := blames_of_rule hr
      have hsame : f.rest = g.rest := (List.append_inj' (hus.symm.trans hvs) hrest.length_eq).2
      cases f
      cases g
      cases hexpected
      cases hdetail
      cases hsame
      rfl

/-- **Any two budgets that suffice** lead to the same report on tokens without an end of input. -/
lemma reported_of_budget {n n' : Nat} {ts : List Token} (last : Token) (hts : Inner ts)
    (hn : budget ts.length ≤ min n n') : reported last (rule n ts) = reported last (rule n' ts) := by
  cases h : rule n ts with
  | error f => rw [rule_error_of_budget hn h]
  | ok o =>
      obtain ⟨p, rest⟩ := o
      rw [(derives_of_rule_inner hts h).complete (le_min_iff.mp hn).2]
      rfl

/-- A budget for the significant tokens suffices. -/
lemma parse_eq_of_budget (ts : List Token) :
    parse ts = reported (endToken ts) (rule (budget (significant ts).length) (significant ts)) := by
  rw [parse_eq]
  refine reported_of_budget _ (significant_inner ts) (le_min ?_ le_rfl)
  exact budget_mono (length_significant_le ts)

/-- **Lists with the same significant tokens and the same end of input** are parsed alike. -/
lemma parse_congr {ts us : List Token} (hsignificant : significant ts = significant us)
    (hend : endToken ts = endToken us) : parse ts = parse us := by
  rw [parse_eq_of_budget, parse_eq_of_budget, hsignificant, hend]

/-- **Only the tokens up to the first end of input matter.** A list without an end of input is parsed
like the same list with one behind it, at the place of its last token or nowhere if there is none; and
what follows the first end of input makes no difference. -/
theorem parse_to_end :
    (∀ ts : List Token, Inner ts →
        parse ts = parse (ts ++ [Token.eof ((ts.getLast?.map Token.pos).getD Pos.unset)]))
      ∧ ∀ (pre : List Token) (e : Token) (rest : List Token), Inner pre → e.kind = .eof →
        parse (pre ++ [e] ++ rest) = parse (pre ++ [e]) := by
  constructor
  · intro ts hts
    refine parse_congr ?_ ?_
    · rw [significant_append hts, significant_eof rfl, significant_of_inner hts, List.append_nil]
    · rw [endToken_of_inner hts, endToken_append hts rfl]
  · intro pre e rest hpre he
    rw [List.append_assoc, List.singleton_append]
    refine parse_congr ?_ ?_
    · rw [significant_append hpre, significant_append hpre, significant_eof he, significant_eof he]
    · rw [endToken_append hpre he, endToken_append hpre he]

/-- A program that stops behind `print 1`. -/
def unendedProgram : List Token :=
  [.ofKind .programStart, .ofKind .print, ⟨.number, [], 1, ⟨7, 1, 8⟩⟩]

/-- The end of input is reported, although what follows it would end the program. -/
theorem parse_to_end_unended :
    let e := Token.eof ⟨7, 1, 8⟩
    parse unendedProgram = .error ⟨.kind .semicolon, .plain, e, e.pos⟩
      ∧ parse (unendedProgram ++ [e] ++ [.ofKind .semicolon, .ofKind .programEnd])
        = .error ⟨.kind .semicolon, .plain, e, e.pos⟩
      ∧ ∃ p, parse (unendedProgram ++ [.ofKind .semicolon, .ofKind .programEnd]) = .ok p := by
  intro e
  have hinner : Inner unendedProgram := by simp [unendedProgram]
  obtain ⟨hadded, hcut⟩ := parse_to_end
  have hshort : parse (unendedProgram ++ [e]) = .error ⟨.kind .semicolon, .plain, e, e.pos⟩ := rfl
  refine ⟨?_, ?_, _, rfl⟩
  · exact (hadded unendedProgram hinner).trans hshort
  · exact (hcut unendedProgram e _ hinner rfl).trans hshort

end Program

end LessonLang
