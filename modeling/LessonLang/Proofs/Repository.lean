import LessonLang.Proofs.Table
import LessonLang.World

/-!
What is relied on of repositories.

* `IsCommitName` holds for the names of commits, which are digests in hexadecimal digits.
* `Git.Lawful` says what commands rely on when others fetch repositories for them: revisions mean
  commits by their names, and what is checked out stays below the directory that it is checked out in.
* The repositories on the disk of a world are like that if their commits are (`Repository.lawful`).
-/

namespace LessonLang

/-- **The name of a commit**: forty hexadecimal digits. -/
structure IsCommitName (name : Text) : Prop where
  length : name.length = 40
  digits : ∀ b ∈ name, (hexValue? b).isSome = true

/-- The name of a commit ends in a digit. -/
lemma IsCommitName.exists_concat {name : Text} (h : IsCommitName name) :
    ∃ t b, name = t ++ [b] ∧ (hexValue? b).isSome = true := by
  have hne : name ≠ [] := by
    rintro rfl
    exact absurd h.length (by simp)
  exact ⟨name.dropLast, name.getLast hne, (List.dropLast_append_getLast hne).symm,
    h.digits _ (List.getLast_mem hne)⟩

/-- **What is relied on of those who keep repositories.** Where all repositories are sound, a
repository that is fetched is sound too, and it stays so when a commit is checked out. A revision of a
sound repository means a commit by its name, and no path in the tree of a commit leads up. -/
structure Git.Lawful {ρ : Type} [Git ρ] (Sound : ρ → Prop) : Prop where
  clone : ∀ {w : World ρ} {url r}, w.repositories.All Sound → Git.clone w url = .ok r → Sound r
  name : ∀ {r : ρ} {revision commit}, Sound r → Git.resolve r revision = .ok commit →
    IsCommitName commit
  kept : ∀ {r : ρ} {commit tree r'}, Sound r → Git.checkOut r commit = .ok (tree, r') → Sound r'
  tree : ∀ {r : ρ} {commit tree r'}, Sound r → Git.checkOut r commit = .ok (tree, r') →
    ∀ f ∈ tree, Path.above ∉ Path.elements f.1

/-! ### Repositories on the disk -/

/-- A commit as histories have them. -/
structure Commit.Regular (c : Commit) : Prop where
  name : IsCommitName c.name
  tree : ∀ f ∈ c.tree, Path.above ∉ Path.elements f.1

namespace Repository

variable {r r' : Repository} {c : Commit}

/-- All commits are regular. -/
def Regular (r : Repository) : Prop := ∀ c ∈ r.commits, c.Regular

lemma Regular.clone (hr : r.Regular) (h : r.clone = .ok r') : r'.Regular := by
  rw [Repository.clone] at h
  split_ifs at h
  split at h
  · dsimp only at h
    split_ifs at h
    all_goals
      obtain rfl := Except.ok.inj h
      exact hr
  · exact absurd h (by simp)

/-- What is fetched is a copy of a repository of the world. -/
lemma regular_of_fetch {w : World} (hw : w.repositories.All Regular) {url : Text}
    (h : fetch w url = .ok r) : r.Regular := by
  rw [fetch] at h
  split at h
  · exact absurd h (by simp)
  · exact absurd h (by simp)
  · exact absurd h (by simp)
  · split at h
    · exact absurd h (by simp)
    · split at h
      · exact absurd h (by simp)
      · rename_i r' hr'
        exact (hw.get? hr').clone h

/-- A revision means a commit of the repository. -/
lemma mem_of_resolve {revision : Text} (h : r.resolve revision = .ok c) : c ∈ r.commits := by
  rw [resolve] at h
  split at h
  · exact absurd h (by simp)
  · split at h
    · exact absurd h (by simp)
    · split at h
      · rename_i found _ c' hfound
        obtain rfl := Except.ok.inj h
        obtain ⟨i, -, hi⟩ := Option.bind_eq_some_iff.mp hfound
        exact List.mem_of_getElem? hi
      · exact absurd h (by simp)

lemma mem_of_commit? {name : Text} (h : r.commit? name = some c) : c ∈ r.commits :=
  List.mem_of_find?_eq_some h

lemma eq_ok_of_mapError {α ε ε' : Type} {x : Except ε α} {f : ε → ε'} {a : α}
    (h : x.mapError f = .ok a) : x = .ok a := by
  cases x with
  | error e => exact absurd h (by simp [Except.mapError])
  | ok b => exact congrArg Except.ok (Except.ok.inj h)

/-- What is checked out is the tree of a commit, and the other commits stay. -/
lemma exists_of_checkOut {name : Text} {tree : List (Text × Text)}
    (h : Git.checkOut r name = .ok (tree, r')) :
    (∃ c ∈ r.commits, tree = c.tree) ∧ r'.commits = r.commits := by
  simp only [Git.checkOut] at h
  cases hc : r.commit? name with
  | none =>
      rw [hc] at h
      exact absurd h (by simp)
  | some c =>
      rw [hc] at h
      obtain ⟨rfl, rfl⟩ := Prod.mk.inj (Except.ok.inj h)
      exact ⟨⟨c, mem_of_commit? hc, rfl⟩, rfl⟩

/-- **Repositories with regular commits** are kept lawfully. -/
theorem lawful : Git.Lawful Regular where
  clone hw h := regular_of_fetch hw (eq_ok_of_mapError h)
  name := by
    intro r revision commit hr h
    replace h : (r.resolve revision).map Commit.name = .ok commit := eq_ok_of_mapError h
    cases hc : r.resolve revision with
    | error f =>
        rw [hc] at h
        exact absurd h (by simp [Except.map])
    | ok c =>
        rw [hc] at h
        obtain rfl := Except.ok.inj h
        exact (hr c (mem_of_resolve hc)).name
  kept := by
    intro r commit tree r' hr h
    rw [Regular, (exists_of_checkOut h).2]
    exact hr
  tree := by
    intro r commit tree r' hr h
    obtain ⟨c, hc, rfl⟩ := (exists_of_checkOut h).1
    exact (hr c hc).tree

end Repository

end LessonLang
