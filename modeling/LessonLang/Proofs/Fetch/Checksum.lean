import LessonLang.Proofs.World

/-!
What the checksum of a lesson tells.

* `Disk.HasFile` says which files a tree of files has, and these are the ones that are listed for its
  checksum (`Disk.mem_below_iff`).
* A digest that is written out is one digest only (`Sha256.hex_inj`), so equal checksums are collisions
  or come from one text.
* `Grown` says that a list of files only became longer. Up to that the text of a checksum tells the
  files (`checksumInput_inj`): nothing stands between a path, its content and the next path, but what
  is longer in one place has to be shorter in another.
* `World.directoryChecksum_tells`: trees of which one is the other grown have the same files if they
  have the same checksum. `World.directoryChecksum_blind` is what can happen to others.
-/

namespace LessonLang

/-! ### Files of a tree -/

namespace Disk

variable {d : Disk} {place : List Text} {path content : Text}

/-- **A tree has a file**: names lead to it from the place of the tree, and not through a history. -/
def HasFile (d : Disk) (place : List Text) (path content : Text) : Prop :=
  ∃ names, names ≠ [] ∧ historyName ∉ names.dropLast ∧ path = Text.join [Path.slash] names
    ∧ (place ++ names, Entry.file content) ∈ d.entries

/-- **The files of a tree are listed**, and nothing else is. -/
lemma mem_below_iff : (path, content) ∈ d.below place ↔ d.HasFile place path content := by
  rw [below, List.mem_filterMap]
  constructor
  · rintro ⟨⟨p, _ | _⟩, hmem, hlisted⟩
    · dsimp only at hlisted
      split_ifs at hlisted with hcond
      obtain ⟨rfl, rfl⟩ := Prod.mk.inj (Option.some.inj hlisted)
      obtain ⟨⟨⟨names, rfl⟩, hne⟩, hhistory⟩ : (place <+: p ∧ p.drop place.length ≠ [])
          ∧ historyName ∉ (p.drop place.length).dropLast := by
        simpa using hcond
      rw [List.drop_left] at hne hhistory ⊢
      exact ⟨names, hne, hhistory, rfl, hmem⟩
    · exact absurd hlisted (by simp)
  · rintro ⟨names, hne, hhistory, rfl, hmem⟩
    refine ⟨_, hmem, ?_⟩
    simp [hne, hhistory]

/-- Two trees have the same files, at the same paths and with the same contents. -/
def SameFiles (d : Disk) (place : List Text) (d' : Disk) (place' : List Text) : Prop :=
  ∀ path content, d.HasFile place path content ↔ d'.HasFile place' path content

lemma sameFiles_of_below_eq {d' : Disk} {place' : List Text} (h : d.below place = d'.below place') :
    SameFiles d place d' place' := by
  intro path content
  rw [← mem_below_iff, h, mem_below_iff]

end Disk

/-! ### Digests in digits -/

lemma hexDigit_inj : ∀ m < 16, ∀ n < 16, hexDigit m = hexDigit n → m = n := by decide

lemma length_hexDigits (width n : ℕ) : (hexDigits width n).length = width := by
  induction width generalizing n with
  | zero => rfl
  | succ width ih => rw [hexDigits, List.length_append, ih, List.length_singleton]

/-- Digits tell a number that they are enough for. -/
lemma hexDigits_inj {width m n : ℕ} (hm : m < 16 ^ width) (hn : n < 16 ^ width)
    (h : hexDigits width m = hexDigits width n) : m = n := by
  induction width generalizing m n with
  | zero => omega
  | succ width ih =>
      obtain ⟨hhigh, hlow⟩ := List.append_inj' h rfl
      rw [pow_succ] at hm hn
      have hdiv : m / 16 = n / 16 := ih (by omega) (by omega) hhigh
      have hmod : m % 16 = n % 16 :=
        hexDigit_inj _ (by omega) _ (by omega) (List.singleton_inj.mp hlow)
      omega

namespace Sha256

/-- The words of a state, in order. -/
def State.words (s : State) : List UInt32 := [s.a, s.b, s.c, s.d, s.e, s.f, s.g, s.h]

lemma State.words_inj {s t : State} (h : s.words = t.words) : s = t := by
  cases s
  cases t
  simpa [State.words] using h

/-- **Digits tell the digest.** -/
lemma hex_inj {s t : Text} : hex s = hex t ↔ digest s = digest t := by
  constructor
  · intro h
    have hdigits : (digest s).words.map (fun w => hexDigits 8 w.toNat)
        = (digest t).words.map fun w => hexDigits 8 w.toNat := by
      -- eight digits for each word, so the words are cut at the same places
      refine List.eq_iff_flatten_eq.mpr ⟨h, ?_⟩
      simp [State.words, length_hexDigits]
    refine State.words_inj (List.map_injective_iff.mpr ?_ hdigits)
    intro v w hvw
    exact UInt32.toNat_inj.mp (hexDigits_inj v.toNat_lt w.toNat_lt hvw)
  · intro h
    rw [hex, h, ← hex]

/-- **A collision**: two texts with one digest. -/
def Collide (s t : Text) : Prop := s ≠ t ∧ digest s = digest t

end Sha256

/-! ### Files that grew -/

/-- **One list of files is another one grown**: each file is there again, in order, with a path and a
content that are no shorter, and new files can be between them. -/
inductive Grown : List (Text × Text) → List (Text × Text) → Prop where
  | nil : Grown [] []
  | new {g : Text × Text} {fs gs : List (Text × Text)} (hpath : g.1 ≠ []) (h : Grown fs gs) :
      Grown fs (g :: gs)
  | again {f g : Text × Text} {fs gs : List (Text × Text)} (hpath : f.1.length ≤ g.1.length)
      (hcontent : f.2.length ≤ g.2.length) (h : Grown fs gs) : Grown (f :: fs) (g :: gs)

variable {fs gs : List (Text × Text)}

lemma Grown.refl (fs : List (Text × Text)) : Grown fs fs := by
  induction fs with
  | nil => exact .nil
  | cons f fs ih => exact .again le_rfl le_rfl ih

lemma checksumInput_cons (f : Text × Text) (fs : List (Text × Text)) :
    checksumInput (f :: fs) = f.1 ++ (f.2 ++ checksumInput fs) := by
  rw [← List.append_assoc]
  rfl

lemma length_checksumInput_cons (f : Text × Text) (fs : List (Text × Text)) :
    (checksumInput (f :: fs)).length = f.1.length + f.2.length + (checksumInput fs).length := by
  rw [checksumInput_cons, List.length_append, List.length_append, Nat.add_assoc]

lemma Grown.length_le (h : Grown fs gs) :
    (checksumInput fs).length ≤ (checksumInput gs).length := by
  induction h with
  | nil => exact le_rfl
  | new hpath h ih =>
      rw [length_checksumInput_cons]
      omega
  | again hpath hcontent h ih =>
      rw [length_checksumInput_cons, length_checksumInput_cons]
      omega

/-- **Growth shows.** A file that is new makes the text longer, and so does one that is longer; if the
text is the same, then all lengths are, and it is cut at the same places. -/
lemma Grown.eq_of_checksumInput (h : Grown fs gs) (htext : checksumInput fs = checksumInput gs) :
    fs = gs := by
  induction h with
  | nil => rfl
  | @new g fs gs hpath h ih =>
      have hle := h.length_le
      have hpos : 0 < g.1.length := List.length_pos_iff.mpr hpath
      rw [htext, length_checksumInput_cons] at hle
      omega
  | @again f g fs gs hpath hcontent h ih =>
      have hle := h.length_le
      have hlength := congrArg List.length htext
      rw [length_checksumInput_cons, length_checksumInput_cons] at hlength
      rw [checksumInput_cons, checksumInput_cons] at htext
      obtain ⟨hpaths, htext⟩ := List.append_inj htext (by omega)
      obtain ⟨hcontents, htext⟩ := List.append_inj htext (by omega)
      rw [Prod.ext hpaths hcontents, ih htext]

/-- **The text of a checksum tells the files** among those that differ by growth only, and among no
others. -/
theorem checksumInput_inj :
    fs = gs ↔ checksumInput fs = checksumInput gs ∧ (Grown fs gs ∨ Grown gs fs) := by
  constructor
  · rintro rfl
    exact ⟨rfl, .inl (.refl fs)⟩
  · rintro ⟨htext, h | h⟩
    · exact h.eq_of_checksumInput htext
    · exact (h.eq_of_checksumInput htext.symm).symm

/-! ### Checksums of directories -/

namespace World

variable {ρ : Type} {w w' : World ρ} {dir dir' : Text} {place place' : List Text}

/-- **A path leads to a tree of files**: to a directory, and not as the path of a history. -/
structure LeadsToTree (w : World ρ) (dir : Text) (place : List Text) : Prop where
  locate : w.disk.locate w.directory dir = .ok place
  directory : w.disk.get? place = some .directory
  named : Disk.namesHistory dir = false

variable [Git ρ]

/-- The checksum that is taken of a tree is that of its files. -/
lemma LeadsToTree.attempt_directoryChecksum (h : w.LeadsToTree dir place) :
    w.attempt (directoryChecksum dir) = (.ok (checksum (w.disk.below place)), w) := by
  have hfiles : w.disk.files w.directory dir = .ok (w.disk.below place) := by
    rw [Disk.files, h.locate]
    simp [h.directory, h.named]
  rw [directoryChecksum, attempt_bind, attempt_onFiles, perform_files, hfiles]
  rfl

/-- **A checksum tells the files of a tree from those that grew out of them.** Of any two trees of
files, wherever they are and whatever histories they have in them, a checksum is made. If the files of
one are those of the other grown, then they are the same files as soon as the text is the same that the
checksums are made of, and hence as soon as the checksums are the same, unless two texts collide. -/
theorem directoryChecksum_tells (ht : w.LeadsToTree dir place) (ht' : w'.LeadsToTree dir' place')
    (hgrown : Grown (w.disk.below place) (w'.disk.below place')
      ∨ Grown (w'.disk.below place') (w.disk.below place)) :
    ∃ sum sum', w.attempt (directoryChecksum dir) = (.ok sum, w)
      ∧ w'.attempt (directoryChecksum dir') = (.ok sum', w')
      ∧ (checksumInput (w.disk.below place) = checksumInput (w'.disk.below place') →
          Disk.SameFiles w.disk place w'.disk place')
      ∧ (sum = sum' → Disk.SameFiles w.disk place w'.disk place'
          ∨ Sha256.Collide (checksumInput (w.disk.below place))
              (checksumInput (w'.disk.below place'))) := by
  have htells : checksumInput (w.disk.below place) = checksumInput (w'.disk.below place') →
      Disk.SameFiles w.disk place w'.disk place' := fun htext =>
    Disk.sameFiles_of_below_eq (checksumInput_inj.mpr ⟨htext, hgrown⟩)
  refine ⟨_, _, ht.attempt_directoryChecksum, ht'.attempt_directoryChecksum, htells, fun hsum => ?_⟩
  by_cases htext : checksumInput (w.disk.below place) = checksumInput (w'.disk.below place')
  · exact .inl (htells htext)
  · exact .inr ⟨htext, Sha256.hex_inj.mp hsum⟩

/-- A checkout with its history, and a copy of its files elsewhere. -/
def copiedWorld : World where
  disk.entries := [([utf8 "copy"], .directory),
    ([utf8 "copy", utf8 "stop.dada"], .file (utf8 "say 1\n")),
    ([utf8 "tour"], .directory),
    ([utf8 "tour", utf8 ".git"], .directory),
    ([utf8 "tour", utf8 ".git", utf8 "HEAD"], .file (utf8 "4f1a\n")),
    ([utf8 "tour", utf8 "stop.dada"], .file (utf8 "say 1\n"))]

/-- The history does not count. -/
theorem directoryChecksum_tells_copy :
    copiedWorld.LeadsToTree (utf8 "/tour") [utf8 "tour"]
      ∧ copiedWorld.LeadsToTree (utf8 "copy") [utf8 "copy"]
      ∧ Disk.SameFiles copiedWorld.disk [utf8 "tour"] copiedWorld.disk [utf8 "copy"] := by
  have htour : copiedWorld.LeadsToTree (utf8 "/tour") [utf8 "tour"] := by
    constructor <;> decide +kernel
  have hcopy : copiedWorld.LeadsToTree (utf8 "copy") [utf8 "copy"] := by
    constructor <;> decide +kernel
  have hbelow : copiedWorld.disk.below [utf8 "tour"] = copiedWorld.disk.below [utf8 "copy"] := by
    decide +kernel
  obtain ⟨-, -, -, -, htells, -⟩ :=
    directoryChecksum_tells htour hcopy (.inl (hbelow ▸ Grown.refl _))
  exact ⟨htour, hcopy, htells (congrArg checksumInput hbelow)⟩

/-- Two lessons with one file each. A byte of the content of the first is in the path of the second. -/
def blurredWorld : World where
  disk.entries := [([utf8 "one"], .directory),
    ([utf8 "one", utf8 "a"], .file (utf8 "bc")),
    ([utf8 "two"], .directory),
    ([utf8 "two", utf8 "ab"], .file (utf8 "c"))]

/-- Trees with one checksum need not have the same files: bytes move between paths and contents
unnoticed. -/
theorem directoryChecksum_blind :
    blurredWorld.LeadsToTree (utf8 "/one") [utf8 "one"]
      ∧ blurredWorld.LeadsToTree (utf8 "/two") [utf8 "two"]
      ∧ checksumInput (blurredWorld.disk.below [utf8 "one"])
          = checksumInput (blurredWorld.disk.below [utf8 "two"])
      ∧ blurredWorld.attempt (directoryChecksum (utf8 "/one"))
          = blurredWorld.attempt (directoryChecksum (utf8 "/two"))
      ∧ ¬Disk.SameFiles blurredWorld.disk [utf8 "one"] blurredWorld.disk [utf8 "two"] := by
  have hone : blurredWorld.LeadsToTree (utf8 "/one") [utf8 "one"] := by
    constructor <;> decide +kernel
  have htwo : blurredWorld.LeadsToTree (utf8 "/two") [utf8 "two"] := by
    constructor <;> decide +kernel
  have htext : checksumInput (blurredWorld.disk.below [utf8 "one"])
      = checksumInput (blurredWorld.disk.below [utf8 "two"]) := by
    decide +kernel
  refine ⟨hone, htwo, htext, ?_, fun hsame => ?_⟩
  · rw [hone.attempt_directoryChecksum, htwo.attempt_directoryChecksum, checksum, htext, checksum]
  · have hfile := hsame (utf8 "a") (utf8 "bc")
    rw [← Disk.mem_below_iff, ← Disk.mem_below_iff] at hfile
    exact absurd hfile (by decide +kernel)

end World

end LessonLang
