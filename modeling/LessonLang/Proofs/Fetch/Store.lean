import LessonLang.Proofs.Path
import LessonLang.Proofs.Text.Trim

/-!
Where versions of lessons are kept.

* `Path.child` puts one name behind the path of a directory. It is the inverse of `Path.dir` on clean
  absolute paths (`Path.IsRooted.dir_child`).
* `InStore home p` says that `p` is two names below the directory of lessons of `home`.
* A safe element is a name unless the text is `.` or `..`, with white space around it or not
  (`Path.isName_safeElement_iff`): dots are safe characters, and these two elements are nothing but
  dots.
* `lessonDir_inStore_iff`: so exactly the lessons and versions with other names have a directory in the
  store. `lessonDir_outside` is one that has not.
-/

namespace LessonLang

namespace Path

/-! ### Elements made of dots -/

/-- The byte of a full stop. -/
def dot : UInt8 := 0x2e

/-- Only a dot becomes a dot. -/
lemma safePiece_eq_dot_iff {p : Piece} : safePiece p = dot ↔ p = .char '.' := by
  constructor
  · intro h
    cases p with
    | stray b => exact absurd h (by simp [safePiece, dot])
    | char c =>
        rw [safePiece] at h
        split_ifs at h with hc
        · rw [eq_of_byte_eq (d := '.') hc (by decide) h]
        · exact absurd h (by decide)
  · rintro rfl
    decide

lemma pieces_dots (n : ℕ) :
    Text.pieces (List.replicate n dot) = List.replicate n (Piece.char '.') := by
  induction n with
  | zero => rfl
  | succ n ih =>
      have hbytes : (Piece.char '.').bytes = [dot] := by decide
      have hsplit : List.replicate (n + 1) dot = (Piece.char '.').bytes ++ List.replicate n dot := by
        rw [hbytes, List.singleton_append, List.replicate_succ]
      rw [hsplit, Text.pieces_bytes_append (.char '.' _), ih, List.replicate_succ]

/-- **A safe element is made of dots** exactly if the text is, up to white space around it. -/
lemma safeElement_eq_dots_iff {t : Text} {n : ℕ} (hn : n ≠ 0) :
    safeElement t = List.replicate n dot ↔ t.trim = List.replicate n dot := by
  rw [safeElement_eq]
  split_ifs with hempty
  · -- the name that a blank text gets has no dots in it
    have hname : utf8 "head" ≠ List.replicate n dot := by
      intro h
      have hmem : (0x68 : UInt8) ∈ utf8 "head" := by decide
      rw [h] at hmem
      exact absurd (List.eq_of_mem_replicate hmem) (by decide)
    have htrim : t.trim ≠ List.replicate n dot := by
      rw [List.isEmpty_iff.mp hempty]
      simpa using hn
    exact iff_of_false hname htrim
  · constructor
    · intro h
      obtain ⟨hlen, hall⟩ := List.eq_replicate_iff.mp h
      have hpieces : t.trim.pieces = List.replicate n (Piece.char '.') := by
        refine List.eq_replicate_iff.mpr ⟨by simpa using hlen, fun p hp => ?_⟩
        exact safePiece_eq_dot_iff.mp (hall _ (List.mem_map_of_mem hp))
      rw [← Text.ofPieces_pieces t.trim, hpieces, ← pieces_dots, Text.ofPieces_pieces]
    · intro h
      rw [h, pieces_dots, List.map_replicate, safePiece_eq_dot_iff.mpr rfl]

/-- **A safe element is a name** unless the text is one of the two elements that are none. -/
lemma isName_safeElement_iff {t : Text} :
    IsName (safeElement t) ↔ t.trim ≠ here ∧ t.trim ≠ above := by
  have hhere : safeElement t = here ↔ t.trim = here := safeElement_eq_dots_iff one_ne_zero
  have habove : safeElement t = above ↔ t.trim = above := safeElement_eq_dots_iff two_ne_zero
  constructor
  · intro h
    exact ⟨mt hhere.mpr h.ne_here, mt habove.mpr h.ne_above⟩
  · rintro ⟨h₁, h₂⟩
    exact ⟨safeElement_ne_nil t, mt hhere.mp h₁, mt habove.mp h₂, slash_not_mem_safeElement t⟩

/-! ### Names below a directory -/

/-- A path from the root in its shortest form. -/
structure IsRooted (p : Text) : Prop where
  absolute : isAbsolute p = true
  clean : clean p = p

/-- **The path of what is called `e`** in a directory. Only the path of the root ends in a slash. -/
def child (p e : Text) : Text := if p = [slash] then slash :: e else p ++ slash :: e

variable {p e : Text} {ns : List Text}

lemma IsRooted.eq (hp : IsRooted p) : p = slash :: Text.join [slash] (walk [] p) := by
  rw [← clean_of_absolute hp.absolute, hp.clean]

lemma isRooted_spelled (hns : ∀ e ∈ ns, IsName e) : IsRooted (slash :: Text.join [slash] ns) where
  absolute := rfl
  clean := by rw [clean_of_absolute rfl, walk_spelled hns]

lemma join_concat (hne : ns ≠ []) (e : Text) :
    Text.join [slash] (ns ++ [e]) = Text.join [slash] ns ++ slash :: e := by
  induction ns with
  | nil => exact absurd rfl hne
  | cons n ns ih =>
      cases ns with
      | nil => exact join_cons_cons n e []
      | cons m ns =>
          rw [List.cons_append, List.cons_append, join_cons_cons, ← List.cons_append,
            ih (by simp), join_cons_cons, List.append_assoc, List.cons_append]

/-- **A child is one name further down.** -/
lemma IsRooted.child_eq (hp : IsRooted p) (e : Text) :
    child p e = slash :: Text.join [slash] (walk [] p ++ [e]) := by
  have hnames := isName_of_mem_walk hp.absolute
  rw [child]
  split_ifs with hroot
  · rw [hroot]
    rfl
  · have hne : walk [] p ≠ [] := by
      intro hnil
      have heq := hp.eq
      rw [hnil] at heq
      exact hroot heq
    rw [join_concat hne, ← List.cons_append, ← hp.eq]

lemma IsRooted.names (hp : IsRooted p) (he : IsName e) : ∀ n ∈ walk [] p ++ [e], IsName n := by
  intro n hn
  obtain hn | hn := List.mem_append.mp hn
  · exact isName_of_mem_walk hp.absolute n hn
  · rwa [List.mem_singleton.mp hn]

lemma IsRooted.child (hp : IsRooted p) (he : IsName e) : IsRooted (child p e) := by
  rw [hp.child_eq]
  exact isRooted_spelled (hp.names he)

lemma IsRooted.walk_child (hp : IsRooted p) (he : IsName e) :
    walk [] (Path.child p e) = walk [] p ++ [e] := by
  rw [hp.child_eq, walk_spelled (hp.names he)]

lemma dir_append (p : Text) (he : slash ∉ e) : dir (p ++ slash :: e) = clean (p ++ [slash]) := by
  have hall : ∀ b ∈ e.reverse, (b != slash) = true := by
    intro b hb
    have hne : b ≠ slash := fun h => he (by simpa [h] using hb)
    simpa using hne
  rw [dir, List.reverse_append, List.reverse_cons, List.append_assoc,
    List.dropWhile_append_of_pos hall, List.singleton_append,
    List.dropWhile_cons_of_neg (by simp), List.reverse_cons, List.reverse_reverse]

/-- **The directory of a child** is the one it is in. -/
lemma IsRooted.dir_child (hp : IsRooted p) (he : IsName e) : dir (Path.child p e) = p := by
  rw [Path.child]
  split_ifs with hroot
  · rw [hroot]
    exact dir_append [] he.slash
  · have habs : isAbsolute (p ++ [slash]) = true := by
      obtain ⟨b, q, rfl⟩ := List.exists_cons_of_ne_nil (ne_nil_of_isAbsolute hp.absolute)
      exact hp.absolute
    rw [dir_append p he.slash, clean_of_absolute habs, walk_append, walk_nil, ← hp.eq]

/-- An element leads at most one name further down, and only a name does so. -/
lemma length_advance (he : slash ∉ e) (place : List Text) :
    (advance place e).length ≤ place.length + 1
      ∧ ((advance place e).length = place.length + 1 → IsName e) := by
  obtain (rfl | rfl) | rfl | hname := element_cases he
  · simp
  · simp
  · rw [advance_above, List.length_dropLast]
    omega
  · simp [advance_of_isName hname, hname]

end Path

/-! ### The store -/

/-- The directory of all lessons under a home directory. -/
def lessonStore (home : Text) : Text := Path.child home (utf8 "lessons")

/-- **A path in the store**: two names below the directory of all lessons, which is the directory of
its directory. -/
def InStore (home p : Text) : Prop :=
  ∃ c₁ c₂, Path.IsName c₁ ∧ Path.IsName c₂
    ∧ p = Path.child (Path.child (lessonStore home) c₁) c₂
    ∧ Path.dir (Path.dir p) = lessonStore home

variable {home : Text}

lemma isName_lessons : Path.IsName (utf8 "lessons") := by
  constructor <;> decide

lemma isRooted_lessonStore (hhome : Path.IsRooted home) : Path.IsRooted (lessonStore home) :=
  hhome.child isName_lessons

/-- Names below the store are three names below the home directory. -/
lemma walk_store (hhome : Path.IsRooted home) {c₁ c₂ : Text} (h₁ : Path.IsName c₁)
    (h₂ : Path.IsName c₂) :
    Path.walk [] (Path.child (Path.child (lessonStore home) c₁) c₂)
      = Path.walk [] home ++ [utf8 "lessons"] ++ [c₁] ++ [c₂] := by
  have hstore := isRooted_lessonStore hhome
  rw [(hstore.child h₁).walk_child h₂, hstore.walk_child h₁, lessonStore,
    hhome.walk_child isName_lessons]

/-- The elements of the path of a version, one after the other. -/
lemma foldl_walk_store (place : List Text) (name version : Text) :
    [utf8 "lessons", Path.safeElement name, Path.safeElement version].foldl Path.walk place
      = Path.advance (Path.advance (place ++ [utf8 "lessons"]) (Path.safeElement name))
          (Path.safeElement version) := by
  rw [List.foldl_cons, List.foldl_cons, List.foldl_cons, List.foldl_nil,
    Path.walk_element isName_lessons.slash, Path.advance_of_isName isName_lessons,
    Path.walk_element (Path.slash_not_mem_safeElement name),
    Path.walk_element (Path.slash_not_mem_safeElement version)]

/-- **The directory of a version is in the store** if both elements are names. -/
lemma inStore_of_names (hhome : Path.IsRooted home) {name version : Text}
    (h₁ : Path.IsName (Path.safeElement name)) (h₂ : Path.IsName (Path.safeElement version)) :
    InStore home (lessonDir home name version) := by
  have hstore := isRooted_lessonStore hhome
  have hlesson := hstore.child h₁
  have heq : lessonDir home name version
      = Path.child (Path.child (lessonStore home) (Path.safeElement name))
          (Path.safeElement version) := by
    rw [(hlesson.child h₂).eq, walk_store hhome h₁ h₂, lessonDir,
      Path.join_of_absolute hhome.absolute, foldl_walk_store, Path.advance_of_isName h₁,
      Path.advance_of_isName h₂]
  refine ⟨_, _, h₁, h₂, heq, ?_⟩
  rw [heq, hlesson.dir_child h₂, hstore.dir_child h₁]

/-- What is in the store is three names below the home directory. -/
lemma InStore.length_walk (hhome : Path.IsRooted home) {p : Text} (h : InStore home p) :
    (Path.walk [] p).length = (Path.walk [] home).length + 3 := by
  obtain ⟨c₁, c₂, h₁, h₂, rfl, -⟩ := h
  rw [walk_store hhome h₁ h₂]
  simp

/-- **Nothing else is in the store**: an element that is no name leads no further down. -/
lemma names_of_inStore (hhome : Path.IsRooted home) {name version : Text}
    (h : InStore home (lessonDir home name version)) :
    Path.IsName (Path.safeElement name) ∧ Path.IsName (Path.safeElement version) := by
  have hlen := h.length_walk hhome
  rw [lessonDir, Path.walk_join_cons (Path.ne_nil_of_isAbsolute hhome.absolute) _ fun _ => rfl,
    foldl_walk_store] at hlen
  obtain ⟨hle₁, hname₁⟩ := Path.length_advance (Path.slash_not_mem_safeElement name)
    (Path.walk [] home ++ [utf8 "lessons"])
  obtain ⟨hle₂, hname₂⟩ := Path.length_advance (Path.slash_not_mem_safeElement version)
    (Path.advance (Path.walk [] home ++ [utf8 "lessons"]) (Path.safeElement name))
  rw [List.length_append, List.length_singleton] at hle₁ hname₁
  exact ⟨hname₁ (by omega), hname₂ (by omega)⟩

/-- **Exactly the names that are no mere dots stay in the store.** The element for a text always is
something without a slash, and it is a name unless the text is `.` or `..` up to white space. So the
directory of a version of a lesson is two names below the directory of all lessons if neither the
lesson nor the version is called like that, and otherwise it is somewhere else. -/
theorem lessonDir_inStore_iff (hhome : Path.IsRooted home) (name version : Text) :
    (∀ t, Path.safeElement t ≠ [] ∧ Path.slash ∉ Path.safeElement t
        ∧ (Path.IsName (Path.safeElement t) ↔ t.trim ≠ Path.here ∧ t.trim ≠ Path.above))
      ∧ (InStore home (lessonDir home name version)
          ↔ ∀ t ∈ [name, version], t.trim ≠ Path.here ∧ t.trim ≠ Path.above) := by
  have hnames : InStore home (lessonDir home name version)
      ↔ ∀ t ∈ [name, version], Path.IsName (Path.safeElement t) := by
    constructor
    · intro h
      simpa using names_of_inStore hhome h
    · intro h
      exact inStore_of_names hhome (h name (by simp)) (h version (by simp))
  refine ⟨fun t => ⟨Path.safeElement_ne_nil t, Path.slash_not_mem_safeElement t,
    Path.isName_safeElement_iff⟩, hnames.trans ?_⟩
  exact forall₂_congr fun t _ => Path.isName_safeElement_iff

/-- A version with a slash in it is kept in the store under another name. -/
theorem lessonDir_inStore_branch :
    Path.IsRooted (utf8 "/h") ∧ InStore (utf8 "/h") (utf8 "/h/lessons/.../a_.._4f1a") := by
  have hhome : Path.IsRooted (utf8 "/h") := ⟨by decide, by decide⟩
  have hdir : lessonDir (utf8 "/h") (utf8 " ...\n") (utf8 "a/..@4f1a")
      = utf8 "/h/lessons/.../a_.._4f1a" := by decide +kernel
  refine ⟨hhome, ?_⟩
  rw [← hdir]
  exact (lessonDir_inStore_iff hhome _ _).2.mpr (by decide +kernel)

/-- A lesson that is called `..` is not kept in the store: its versions are right below the home
directory. -/
theorem lessonDir_outside :
    Path.IsRooted (utf8 "/h") ∧ lessonDir (utf8 "/h") (utf8 "..") (utf8 "v1") = utf8 "/h/v1"
      ∧ Path.safeElement (utf8 "..") = Path.above
      ∧ ¬InStore (utf8 "/h") (lessonDir (utf8 "/h") (utf8 "..") (utf8 "v1")) := by
  have hhome : Path.IsRooted (utf8 "/h") := ⟨by decide, by decide⟩
  have habove : Path.safeElement (utf8 "..") = Path.above := by decide +kernel
  refine ⟨hhome, by decide +kernel, habove, fun h => ?_⟩
  exact (names_of_inStore hhome h).1.ne_above habove

end LessonLang
