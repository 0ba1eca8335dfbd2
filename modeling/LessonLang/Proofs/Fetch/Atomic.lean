import LessonLang.Proofs.Fetch.Footprint
import LessonLang.Proofs.Fetch.Location

/-!
Fetching is all or nothing.

* `Fetches` says that the named lessons are fetched one after the other, each with success, with the
  entries to be recorded and the world in the end. `World.perform_fetchAll` finds such a run or fails.
* `World.fetchCommand_all_or_nothing`: without such a run the command fails and the lockfile stays as
  it is. With one it succeeds, and the lockfile that is loaded afterwards has the entries of the run and
  of all other lessons what it had; but if the disk refuses to have it written, the command fails and
  it stays as it is.

This needs a lockfile, or that no lesson is kept below the path of the missing one: otherwise fetching
makes a directory there, and the lockfile cannot be written.
-/

namespace LessonLang

/-- The world after a lesson was fetched and reported. -/
def World.reported {ρ : Type} [Git ρ] (w : World ρ) (entry : LockedLesson) : World ρ :=
  (w.perform (printLine (utf8 "fetched " ++ keyOf entry.name ++ 0x20 :: entry.version))).2

/-- **Lessons are fetched** one after the other, all of them. -/
inductive Fetches {ρ : Type} [Git ρ] (manifest : Manifest) (home : Text) :
    List Text → World ρ → List LockedLesson → World ρ → Prop where
  | nil (w : World ρ) : Fetches manifest home [] w [] w
  | cons {name : Text} {rest : List Text} {lesson : Lesson} {entry : LockedLesson}
      {entries : List LockedLesson} {w w₁ w' : World ρ}
      (hlesson : manifest.findLesson? name = some lesson)
      (h : w.attempt (fetchLesson manifest home lesson) = (.ok entry, w₁))
      (hrest : Fetches manifest home rest (w₁.reported entry) entries w') :
      Fetches manifest home (name :: rest) w (entry :: entries) w'

/-! ### Recording several lessons -/

namespace Lockfile

/-- The last of several entries for a name. -/
def lastFor (entries : List LockedLesson) (name : Text) : Option LockedLesson :=
  entries.reverse.find? fun e => keyOf e.name == keyOf name

variable {l : Lockfile}

lemma keyed_foldl_upsert (hl : l.Keyed) (entries : List LockedLesson) :
    (entries.foldl upsert l).Keyed := by
  induction entries generalizing l with
  | nil => exact hl
  | cons e rest ih => exact ih (keyed_upsert hl e)

/-- **When several lessons are recorded** then the last entry for a name counts. -/
lemma recorded_foldl_upsert (hl : l.Keyed) (entries : List LockedLesson) (name : Text) :
    (entries.foldl upsert l).recorded name
      = ((lastFor entries name).map LockedLesson.normalize).or (l.recorded name) := by
  induction entries generalizing l with
  | nil => rfl
  | cons e rest ih =>
      rw [List.foldl_cons, ih (keyed_upsert hl e), recorded_upsert hl, lastFor, lastFor,
        List.reverse_cons, List.find?_append]
      cases rest.reverse.find? fun e => keyOf e.name == keyOf name with
      | some x => rfl
      | none =>
          rw [Option.none_or, List.find?_singleton]
          by_cases hname : keyOf name = keyOf e.name
          · simp [hname]
          · have hne : ¬keyOf e.name = keyOf name := fun h => hname h.symm
            simp [hname, hne]

end Lockfile

namespace World

variable {ρ : Type} [Git ρ] {w w' : World ρ} {manifest : Manifest} {home : Text}
  {names : List Text} {lock : Lockfile} {place : List Text}

/-! ### Runs -/

lemma spares_reported (w : World ρ) (entry : LockedLesson) : w.Spares place (w.reported entry) :=
  ⟨rfl, Disk.Spares.refl place _, fun hw => ⟨hw.absolute, hw.holds, hw.git⟩⟩

/-- None of the named lessons is kept below a place where nothing is. -/
def AllClear (place : List Text) (w : World ρ) (manifest : Manifest) (home : Text)
    (names : List Text) : Prop :=
  ∀ name ∈ names, ∀ lesson, manifest.findLesson? name = some lesson → lesson.isGit = true →
    w.Clear place (lessonBase home lesson.name)

/-- The first lesson is fetched and reported, and then the others are. -/
lemma perform_fetchAll_cons {name : Text} {lesson : Lesson}
    (hlesson : manifest.findLesson? name = some lesson) (rest : List Text) (lock : Lockfile) :
    w.perform (fetchAll manifest home (name :: rest) lock)
      = match w.attempt (fetchLesson manifest home lesson) with
        | (.error e, w₁) => (.error (utf8 "fetch " ++ lesson.name ++ utf8 ": " ++ e.message), w₁)
        | (.ok entry, w₁) =>
          (w₁.reported entry).perform (fetchAll manifest home rest (lock.upsert entry)) := by
  rw [fetchAll, hlesson]
  change w.perform ((fetchLesson manifest home lesson).run >>= _) = _
  rw [perform_bind, attempt]
  rcases w.perform (fetchLesson manifest home lesson).run with ⟨e | entry, w₁⟩ <;> rfl

/-- A run begins with the first lesson. -/
lemma Fetches.of_cons {name : Text} {entries : List LockedLesson}
    (h : Fetches manifest home (name :: names) w entries w') :
    ∃ lesson entry w₁, manifest.findLesson? name = some lesson
      ∧ w.attempt (fetchLesson manifest home lesson) = (.ok entry, w₁)
      ∧ ∃ rest, entries = entry :: rest ∧ Fetches manifest home names (w₁.reported entry) rest w' := by
  cases h with
  | cons hlesson h hrest => exact ⟨_, _, _, hlesson, h, _, rfl, hrest⟩

/-- There is only one run. -/
lemma Fetches.unique {entries entries' : List LockedLesson} {w'' : World ρ}
    (h : Fetches manifest home names w entries w')
    (h' : Fetches manifest home names w entries' w'') : entries' = entries ∧ w'' = w' := by
  induction h generalizing entries' w'' with
  | nil w =>
      cases h'
      exact ⟨rfl, rfl⟩
  | cons hlesson hfetch _ ih =>
      obtain ⟨lesson', entry', w₁, hlesson', hfetch', rest, rfl, hrun⟩ := Fetches.of_cons h'
      obtain rfl := Option.some.inj (hlesson.symm.trans hlesson')
      obtain ⟨hentry, rfl⟩ := Prod.mk.inj (hfetch.symm.trans hfetch')
      obtain rfl := Except.ok.inj hentry
      obtain ⟨rfl, rfl⟩ := ih hrun
      exact ⟨rfl, rfl⟩

/-- **Fetching several lessons** is a run of all of them, or a failure that spares the lockfile. -/
lemma perform_fetchAll (hw : w.Guarded place) (hclear : w.AllClear place manifest home names)
    (lock : Lockfile) :
    (∃ entries w', Fetches manifest home names w entries w' ∧ w.Spares place w'
        ∧ w.perform (fetchAll manifest home names lock)
          = (.ok (entries.foldl Lockfile.upsert lock), w'))
      ∨ (¬∃ entries w', Fetches manifest home names w entries w')
        ∧ ∃ message w', w.Spares place w'
          ∧ w.perform (fetchAll manifest home names lock) = (.error message, w') := by
  induction names generalizing w lock with
  | nil => exact Or.inl ⟨[], w, .nil w, .refl place w, rfl⟩
  | cons name rest ih =>
      obtain ⟨hname, hrest⟩ := List.forall_mem_cons.mp hclear
      cases hlesson : manifest.findLesson? name with
      | none =>
          refine Or.inr ⟨?_, utf8 "unknown lesson " ++ name.quoted, w, .refl place w, ?_⟩
          · rintro ⟨entries, w', hrun⟩
            obtain ⟨lesson, _, _, hsome, -⟩ := Fetches.of_cons hrun
            exact absurd (hlesson.symm.trans hsome) (by simp)
          · rw [fetchAll, hlesson]
            rfl
      | some lesson =>
          have hspares : w.Spares place (w.attempt (fetchLesson manifest home lesson)).2 :=
            spares_fetchLesson hw (hname lesson hlesson)
          rw [perform_fetchAll_cons hlesson]
          rcases hfetch : w.attempt (fetchLesson manifest home lesson) with ⟨e | entry, w₁⟩
          · rw [hfetch] at hspares
            refine Or.inr ⟨?_, _, w₁, hspares, rfl⟩
            rintro ⟨entries, w', hrun⟩
            obtain ⟨lesson', _, _, hsome, hok, -⟩ := Fetches.of_cons hrun
            obtain rfl := Option.some.inj (hlesson.symm.trans hsome)
            exact absurd (hfetch.symm.trans hok) (by simp)
          · rw [hfetch] at hspares
            have hreported := hspares.trans (spares_reported w₁ entry)
            have hclear₁ : (w₁.reported entry).AllClear place manifest home rest :=
              fun n hn l hl hgit => (hrest n hn l hl hgit).spares hreported
            obtain ⟨entries, w', hrun, hspares', heq⟩ | ⟨hnone, message, w', hspares', heq⟩ :=
              ih (hw.spares hreported) hclear₁ (lock.upsert entry)
            · exact Or.inl ⟨entry :: entries, w', .cons hlesson hfetch hrun,
                hreported.trans hspares', heq⟩
            · refine Or.inr ⟨?_, message, w', hreported.trans hspares', heq⟩
              rintro ⟨entries, w'', hrun⟩
              obtain ⟨lesson', _, _, hsome, hok, entries', -, hrun'⟩ := Fetches.of_cons hrun
              obtain rfl := Option.some.inj (hlesson.symm.trans hsome)
              obtain ⟨hentry, rfl⟩ := Prod.mk.inj (hfetch.symm.trans hok)
              obtain rfl := Except.ok.inj hentry
              exact hnone ⟨entries', w'', hrun'⟩

/-! ### The place of the lockfile -/

lemma isName_lockfileName : Path.IsName lockfileName := by
  constructor <;> decide

/-- **The place of a lockfile** next to a manifest that was loaded: there are directories around it. -/
lemma guarded_lockfile (hw : w.Regular)
    (hmanifest : (w.perform currentManifest).1 = some (.ok manifest))
    (hentry : w.disk.entry w.directory (Path.absolute w.directory manifest.lockfilePath)
      ≠ .ok .directory) :
    w.Guarded (Path.spot w.directory manifest.lockfilePath) := by
  have hb := hw.absolute
  obtain ⟨-, path, content, hread, hdir⟩ := exists_read_of_currentManifest hmanifest
  obtain ⟨place, hlocate, hfile⟩ := Disk.exists_of_read hread
  obtain rfl : place = Path.spot w.directory path := by
    rw [(Disk.eq_spot_of_locate hb hlocate).2, Path.spot_absolute hb]
  have hne : Path.spot w.directory path ≠ [] := by
    intro hnil
    rw [hnil, Disk.get?_nil] at hfile
    exact absurd hfile (by simp)
  obtain ⟨e, he⟩ := Path.spot_dir_absolute hb hne
  have hplace : Path.spot w.directory manifest.lockfilePath
      = Path.spot w.directory manifest.dir ++ [lockfileName] :=
    Path.spot_join_name hb (dir_ne_nil_of_currentManifest hmanifest) isName_lockfileName
  have haround : ∀ q, q <+: Path.spot w.directory manifest.lockfilePath →
      q ≠ Path.spot w.directory manifest.lockfilePath → w.disk.get? q = some .directory := by
    intro q hq hqne
    rw [hplace] at hq hqne
    have hq' := (List.prefix_concat_iff.mp hq).resolve_left hqne
    rw [hdir] at hq'
    refine Disk.directory_of_locate_absolute hb hlocate ?_ ?_
    · rw [he]
      exact hq'.trans (List.prefix_append _ _)
    · rw [he]
      rintro rfl
      exact absurd hq'.length_le (by simp)
  refine ⟨hw, haround, fun hdirectory => hentry ?_, by rw [hplace, List.getLast?_concat]⟩
  rw [Disk.entry_of_locate (Disk.locate_absolute hb hw.holds haround), hdirectory]
  rfl

lemma locate_lockfile (hw : w.Guarded (Path.spot w.directory manifest.lockfilePath))
    (hdir : manifest.dir ≠ []) :
    w.disk.locate w.directory manifest.lockfilePath
      = .ok (Path.spot w.directory manifest.lockfilePath) := by
  have hb := hw.regular.absolute
  have haround := hw.around
  rw [Manifest.lockfilePath, Path.join_cons hdir, Path.spot_clean hb] at haround ⊢
  exact Disk.locate_clean hb hw.regular.holds haround

lemma spot_lockfile_ne_nil (hw : w.Guarded (Path.spot w.directory manifest.lockfilePath)) :
    Path.spot w.directory manifest.lockfilePath ≠ [] := by
  intro hnil
  have hname := hw.name
  rw [hnil] at hname
  exact absurd hname (by simp)

/-- **A lockfile can be saved** at its place unless writing is refused there. -/
lemma saved_lockfile (hw : w.Guarded (Path.spot w.directory manifest.lockfilePath))
    (hdir : manifest.dir ≠ [])
    (hfree : w.disk.barrier? (Path.spot w.directory manifest.lockfilePath) = none)
    (lock : Lockfile) :
    ∃ w', w.perform (lock.save manifest.lockfilePath)
        = ((.ok (), lock.stamp w.time (Path.absolute w.directory manifest.lockfilePath)), w')
      ∧ w'.disk.entry w.directory manifest.lockfilePath
        = .ok (.file
            (lock.stamp w.time (Path.absolute w.directory manifest.lockfilePath)).toText) := by
  have hlocate := Disk.locate_absolute hw.regular.absolute hw.regular.holds hw.around
  have hwrite : ∀ content, w.disk.write w.directory (Path.absolute w.directory manifest.lockfilePath)
      content = .ok (w.disk.set (Path.spot w.directory manifest.lockfilePath) (.file content)) :=
    fun content => Disk.write_ok_iff.mpr ⟨_, hlocate, hw.entry, hfree, rfl⟩
  have hsave := perform_save (w := w) manifest.lockfilePath_ne_nil lock
  rw [hwrite] at hsave
  refine ⟨_, hsave, ?_⟩
  have hgrows := Disk.grows_set hw.entry
    (.file (lock.stamp w.time (Path.absolute w.directory manifest.lockfilePath)).toText)
  rw [Disk.entry_of_locate (hgrows.locate (locate_lockfile hw hdir)),
    Disk.get?_set _ (spot_lockfile_ne_nil hw), if_pos rfl]
  rfl

/-- **A lockfile is not saved** where writing is refused. -/
lemma refused_lockfile (hw : w.Guarded (Path.spot w.directory manifest.lockfilePath))
    {reason : Text}
    (hbarrier : w.disk.barrier? (Path.spot w.directory manifest.lockfilePath) = some reason)
    (lock : Lockfile) :
    ∃ e lock', w.perform (lock.save manifest.lockfilePath) = ((.error e, lock'), w) := by
  have hlocate := Disk.locate_absolute hw.regular.absolute hw.regular.holds hw.around
  rw [perform_save manifest.lockfilePath_ne_nil,
    Disk.write_refused hlocate hw.entry hbarrier]
  exact ⟨_, _, rfl⟩

/-! ### The command -/

/-- The lessons that are fetched: those that are named, or else all. -/
def fetchNames (manifest : Manifest) (args : List Text) : List Text :=
  if args.isEmpty then manifest.lessons.keys else args

lemma perform_fetchCommand {args : List Text}
    (hmanifest : (w.perform currentManifest).1 = some (.ok manifest))
    (hhome : (w.perform homeDirectory).1 = some home) (hnames : fetchNames manifest args ≠ []) :
    w.perform (fetchCommand args)
      = w.perform (fetchInto manifest home (fetchNames manifest args)) := by
  rw [fetchCommand, perform_bind, hmanifest, (exists_read_of_currentManifest hmanifest).1]
  dsimp only
  rw [perform_bind, hhome, perform_homeDirectory]
  dsimp only
  rw [← fetchNames]
  cases hcases : fetchNames manifest args with
  | nil => exact absurd hcases hnames
  | cons name rest => rfl

/-- **The lockfile that is saved** when lessons were fetched, in the world after that. -/
def savedLockfile (w : World ρ) (manifest : Manifest) (old : Lockfile)
    (entries : List LockedLesson) : Lockfile :=
  (entries.foldl Lockfile.upsert { old with tool := toolVersion }).stamp w.time
    (Path.absolute w.directory manifest.lockfilePath)

/-- The entry of a lockfile is the same after its place was spared. -/
lemma entry_lockfile_spared (hw : w.Guarded (Path.spot w.directory manifest.lockfilePath))
    (hdir : manifest.dir ≠ [])
    (hspares : w.Spares (Path.spot w.directory manifest.lockfilePath) w') :
    w'.disk.entry w.directory manifest.lockfilePath
      = w.disk.entry w.directory manifest.lockfilePath := by
  have hlocate := locate_lockfile hw hdir
  rw [Disk.entry_of_locate (hspares.disk.grows.locate hlocate), hspares.disk.same,
    ← Disk.entry_of_locate hlocate]

section outcomes

variable {old : Lockfile} {w₁ : World ρ}
  (hg : w.Guarded (Path.spot w.directory manifest.lockfilePath)) (hdir : manifest.dir ≠ [])
  (hold : w.perform (loadOrNewLockfile manifest.lockfilePath manifest.name toolVersion) = (.ok old, w))
  (hspares : w.Spares (Path.spot w.directory manifest.lockfilePath) w₁)

include hg hdir hold hspares

/-- If a lesson is not fetched, then the command fails, and the lockfile is what it was. -/
lemma fetchInto_of_error {message : Text}
    (hall : w.perform (fetchAll manifest home names { old with tool := toolVersion })
      = (.error message, w₁)) :
    (w.perform (fetchInto manifest home names)).1 = 1
      ∧ (w.perform (fetchInto manifest home names)).2.disk.entry w.directory manifest.lockfilePath
        = w.disk.entry w.directory manifest.lockfilePath := by
  have hsame := entry_lockfile_spared hg hdir hspares
  rw [fetchInto, perform_bind, hold]
  dsimp only
  rw [perform_bind, hall]
  exact ⟨rfl, hsame⟩

/-- If all lessons are fetched and the lockfile may not be written, then the command fails, and the
lockfile is what it was. -/
lemma fetchInto_of_barred {reason : Text}
    (hall : w.perform (fetchAll manifest home names { old with tool := toolVersion })
      = (.ok lock, w₁))
    (hbarred : w.disk.barrier? (Path.spot w.directory manifest.lockfilePath) = some reason) :
    (w.perform (fetchInto manifest home names)).1 = 1
      ∧ (w.perform (fetchInto manifest home names)).2.disk.entry w.directory manifest.lockfilePath
        = w.disk.entry w.directory manifest.lockfilePath := by
  have hsame := entry_lockfile_spared hg hdir hspares
  have hg₁ := hg.spares hspares
  rw [← hspares.directory] at hg₁
  obtain ⟨e, written, hsave⟩ := refused_lockfile hg₁
    (by rw [hspares.directory, hspares.disk.barrier?, hbarred]) lock
  rw [fetchInto, perform_bind, hold]
  dsimp only
  rw [perform_bind, hall]
  dsimp only
  rw [perform_bind, hsave]
  exact ⟨rfl, hsame⟩

/-- If all lessons are fetched and the lockfile may be written, then it is saved, and the command
succeeds. -/
lemma fetchInto_of_free
    (hall : w.perform (fetchAll manifest home names { old with tool := toolVersion })
      = (.ok lock, w₁))
    (hfree : w.disk.barrier? (Path.spot w.directory manifest.lockfilePath) = none) :
    ∃ w₂, w.perform (fetchInto manifest home names) = (0, w₂)
      ∧ w₁.perform (lock.save manifest.lockfilePath)
        = ((.ok (), lock.stamp w₁.time (Path.absolute w₁.directory manifest.lockfilePath)), w₂)
      ∧ w₂.disk.entry w.directory manifest.lockfilePath
        = .ok (.file
            (lock.stamp w₁.time (Path.absolute w₁.directory manifest.lockfilePath)).toText) := by
  have hg₁ := hg.spares hspares
  rw [← hspares.directory] at hg₁
  obtain ⟨w₂, hsave, hwritten⟩ := saved_lockfile hg₁ hdir
    (by rw [hspares.directory, hspares.disk.barrier?, hfree]) lock
  refine ⟨w₂, ?_, hsave, hspares.directory ▸ hwritten⟩
  rw [fetchInto, perform_bind, hold]
  dsimp only
  rw [perform_bind, hall]
  dsimp only
  rw [perform_bind, hsave]
  rfl

end outcomes

/-- **Fetching is all or nothing.** Unless all lessons are known and fetched, the command fails and the
lockfile is what it was. If they are fetched, one at least, then it depends on the disk. If it refuses
to have the lockfile written, then the command fails, and the lockfile is what it was. Otherwise the
command succeeds and the lockfile is written: with the last entry for each of these lessons and with
what it had for all others, and this is found in the lockfile that is loaded afterwards, if its text is
read as the fields that were written. The lockfile of the project is there and can be read, or else none
of the lessons is kept at its path or below. -/
theorem fetchCommand_all_or_nothing {args : List Text} {old : Lockfile} (hw : w.Regular)
    (hmanifest : (w.perform currentManifest).1 = some (.ok manifest))
    (hhome : (w.perform homeDirectory).1 = some home)
    (hold : (w.perform (loadOrNewLockfile manifest.lockfilePath manifest.name toolVersion)).1
      = .ok old)
    (hclear : w.AllClear (Path.spot w.directory manifest.lockfilePath) manifest home
      (fetchNames manifest args)) :
    let after := w.perform (fetchCommand args)
    let unchanged := after.2.disk.entry w.directory manifest.lockfilePath
      = w.disk.entry w.directory manifest.lockfilePath
    ((¬∃ entries w', Fetches manifest home (fetchNames manifest args) w entries w') →
      after.1 = 1 ∧ unchanged)
    ∧ ∀ entries w', Fetches manifest home (fetchNames manifest args) w entries w' → entries ≠ [] →
      match w.disk.barrier? (Path.spot w.directory manifest.lockfilePath) with
      | some _ => after.1 = 1 ∧ unchanged
      | none => after.1 = 0
        ∧ after.2.disk.entry w.directory manifest.lockfilePath
          = .ok (.file (w'.savedLockfile manifest old entries).toText)
        ∧ (∀ name, (w'.savedLockfile manifest old entries).find? name
          = ((Lockfile.lastFor entries name).map LockedLesson.normalize).or (old.find? name))
        ∧ ((w'.savedLockfile manifest old entries).ReadsBack →
          ∃ read, after.2.perform (loadLockfile manifest.lockfilePath) = (.ok read, after.2)
            ∧ ∀ name, read.find? name
              = ((Lockfile.lastFor entries name).map LockedLesson.normalize).or (old.find? name)) := by
  intro after unchanged
  obtain ⟨hsame, hfacts⟩ :=
    perform_loadOrNewLockfile w manifest.lockfilePath_ne_nil manifest.name toolVersion
  obtain ⟨hkept, hrecorded, hentry⟩ := hfacts old hold
  have hold' : w.perform (loadOrNewLockfile manifest.lockfilePath manifest.name toolVersion)
      = (.ok old, w) := Prod.ext hold hsame
  have hg := guarded_lockfile hw hmanifest hentry
  have hdir := dir_ne_nil_of_currentManifest hmanifest
  by_cases hnames : fetchNames manifest args = []
  · -- there is nothing to fetch
    rw [hnames]
    refine ⟨fun hnone => absurd ⟨[], w, .nil w⟩ hnone, fun entries w' hrun hne => ?_⟩
    cases hrun
    exact absurd rfl hne
  have hcommand : after = w.perform (fetchInto manifest home (fetchNames manifest args)) :=
    perform_fetchCommand hmanifest hhome hnames
  obtain ⟨entries, w₁, hrun, hspares, hall⟩ | ⟨hnone, message, w₁, hspares, hall⟩ :=
    perform_fetchAll hg hclear { old with tool := toolVersion }
  · refine ⟨fun hnone => absurd ⟨entries, w₁, hrun⟩ hnone, fun entries' w' hrun' _ => ?_⟩
    obtain ⟨rfl, rfl⟩ := Fetches.unique hrun hrun'
    have hkeyed : Lockfile.Keyed { old with tool := toolVersion } := hkept.keyed
    have hlast : ∀ name, (entries'.foldl Lockfile.upsert { old with tool := toolVersion }).recorded name
        = ((Lockfile.lastFor entries' name).map LockedLesson.normalize).or (old.find? name) := by
      intro name
      rw [Lockfile.recorded_foldl_upsert hkeyed, ← hrecorded]
      rfl
    cases hbarrier : w.disk.barrier? (Path.spot w.directory manifest.lockfilePath) with
    | some reason =>
        have hfailed := fetchInto_of_barred hg hdir hold' hspares hall hbarrier
        rw [← hcommand] at hfailed
        exact hfailed
    | none =>
        obtain ⟨w₂, hdone, hsave, hwritten⟩ :=
          fetchInto_of_free hg hdir hold' hspares hall hbarrier
        rw [hcommand.trans hdone]
        refine ⟨rfl, hwritten, fun name => ?_, fun hread => ?_⟩
        · rw [savedLockfile, Lockfile.find?_stamp (Lockfile.keyed_foldl_upsert hkeyed entries'), hlast]
        · obtain ⟨read, hload, hfind⟩ := loaded_of_saved manifest.lockfilePath_ne_nil
            (Lockfile.keyed_foldl_upsert hkeyed entries') hsave hread
          exact ⟨read, hload, fun name => (hfind name).trans (hlast name)⟩
  · have hfailed := fetchInto_of_error hg hdir hold' hspares hall
    rw [← hcommand] at hfailed
    exact ⟨fun _ => hfailed, fun entries' w' hrun' _ => absurd ⟨entries', w', hrun'⟩ hnone⟩

/-! ### Instances -/

lemma regular_tourWorld (home : Text) : (tourWorld home).Regular := by
  have habsolute : Path.isAbsolute (utf8 "/p") = true := by decide
  have hroot : tourDisk.Holds [] := fun q hq => by rw [List.prefix_nil.mp hq, Disk.get?_nil]
  have hproject : tourDisk.Holds (Path.walk [] (utf8 "/p")) :=
    Disk.holds_concat (e := utf8 "p") hroot (by decide)
  have hcommit : tourCommit.Regular := ⟨⟨by decide +kernel, by decide +kernel⟩, by decide +kernel⟩
  exact ⟨habsolute, hproject, Repository.Regular, Repository.lawful,
    by simpa [tourWorld, Table.All, Repository.Regular] using hcommit⟩

/-- The world after the tour was fetched. -/
def touredWorld (home : Text) : World :=
  ((tourWorld home).attempt (fetchLesson tourManifest home tourLesson)).2.reported tourEntry

lemma fetches_tour (home : Text)
    (h : ((tourWorld home).attempt (fetchLesson tourManifest home tourLesson)).1 = .ok tourEntry) :
    Fetches tourManifest home (fetchNames tourManifest []) (tourWorld home) [tourEntry]
      (touredWorld home) :=
  .cons (by decide) (Prod.ext h rfl) (.nil _)

set_option maxRecDepth 100000 in
/-- The tour is fetched and recorded, and found in the lockfile that is loaded afterwards. -/
theorem fetchCommand_all_or_nothing_tour :
    ((tourWorld (utf8 "/h")).perform (fetchCommand [])).1 = 0
      ∧ ∃ read, (((tourWorld (utf8 "/h")).perform (fetchCommand [])).2.perform
          (loadLockfile tourManifest.lockfilePath)).1 = .ok read
        ∧ read.find? (utf8 "tour") = some tourEntry := by
  have hclear : (tourWorld (utf8 "/h")).AllClear (Path.spot (utf8 "/p") tourManifest.lockfilePath)
      tourManifest (utf8 "/h") (fetchNames tourManifest []) := by
    intro name hname lesson hlesson _ _
    obtain rfl : name = utf8 "tour" := by
      simpa [fetchNames, tourManifest, Table.keys] using hname
    obtain rfl : tourLesson = lesson := Option.some.inj ((by decide : _ = _).trans hlesson)
    decide +kernel
  have hrun := fetches_tour (utf8 "/h") (by decide +kernel)
  have hold : ((tourWorld (utf8 "/h")).perform
      (loadOrNewLockfile tourManifest.lockfilePath tourManifest.name toolVersion)).1
        = .ok { path := utf8 "/p/dada.lock", root := utf8 "p", tool := toolVersion } := by
    decide +kernel
  have hread : ((touredWorld (utf8 "/h")).savedLockfile tourManifest
      { path := utf8 "/p/dada.lock", root := utf8 "p", tool := toolVersion } [tourEntry]).ReadsBack := by
    unfold Lockfile.ReadsBack
    decide +kernel
  have hresult := (fetchCommand_all_or_nothing (regular_tourWorld _) (by decide +kernel)
    (by decide +kernel) hold hclear).2 _ _ hrun (by simp)
  obtain ⟨hcode, -, -, hload⟩ := hresult
  obtain ⟨read, hread, hfind⟩ := hload hread
  exact ⟨hcode, read, congrArg Prod.fst hread, (hfind _).trans (by decide +kernel)⟩

/-- The tour in a directory that takes no new files. -/
def barredTour : World :=
  { tourWorld (utf8 "/h") with disk.refusals := [([utf8 "p"], utf8 "permission denied")] }

lemma regular_barredTour : barredTour.Regular :=
  have h := regular_tourWorld (utf8 "/h")
  ⟨h.absolute, h.holds, h.git⟩

set_option maxRecDepth 100000 in
/-- **Fetched in vain.** If the home directory is the path of the missing lockfile, then the checkout of
the tour makes a directory of that path, and the lockfile cannot be written. It cannot be written
either if the directory around it takes no new files. Both times the tour is fetched, and the command
fails. -/
theorem fetchCommand_fails_at_lockfile :
    (tourWorld (utf8 "/p/dada.lock")).Regular
      ∧ Fetches tourManifest (utf8 "/p/dada.lock") (fetchNames tourManifest [])
          (tourWorld (utf8 "/p/dada.lock")) [tourEntry] (touredWorld (utf8 "/p/dada.lock"))
      ∧ (((tourWorld (utf8 "/p/dada.lock")).perform currentManifest).1 = some (.ok tourManifest)
        ∧ ((tourWorld (utf8 "/p/dada.lock")).perform homeDirectory).1 = some (utf8 "/p/dada.lock")
        ∧ ((tourWorld (utf8 "/p/dada.lock")).perform
            (loadOrNewLockfile tourManifest.lockfilePath tourManifest.name toolVersion)).1
          = .ok { path := utf8 "/p/dada.lock", root := utf8 "p", tool := toolVersion }
        ∧ (tourWorld (utf8 "/p/dada.lock")).disk.barrier?
            (Path.spot (utf8 "/p") tourManifest.lockfilePath) = none
        ∧ ((tourWorld (utf8 "/p/dada.lock")).perform (fetchCommand [])).1 = 1
        ∧ ((tourWorld (utf8 "/p/dada.lock")).perform (fetchCommand [])).2.disk.entry (utf8 "/p")
            tourManifest.lockfilePath = .ok .directory)
      ∧ barredTour.Regular
      ∧ (∃ w', Fetches tourManifest (utf8 "/h") (fetchNames tourManifest []) barredTour [tourEntry] w')
      ∧ (barredTour.perform currentManifest).1 = some (.ok tourManifest)
      ∧ (barredTour.perform (fetchCommand [])).1 = 1 := by
  have hfetched : (barredTour.attempt (fetchLesson tourManifest (utf8 "/h") tourLesson)).1
      = .ok tourEntry := by decide +kernel
  have hrun : Fetches tourManifest (utf8 "/h") (fetchNames tourManifest []) barredTour [tourEntry]
      ((barredTour.attempt (fetchLesson tourManifest (utf8 "/h") tourLesson)).2.reported tourEntry) :=
    .cons (by decide) (Prod.ext hfetched rfl) (.nil _)
  exact ⟨regular_tourWorld _, fetches_tour _ (by decide +kernel), by decide +kernel,
    regular_barredTour, ⟨_, hrun⟩, by decide +kernel⟩

end World

end LessonLang
