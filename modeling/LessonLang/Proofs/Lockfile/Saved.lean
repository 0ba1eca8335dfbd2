import LessonLang.Proofs.Lockfile.Regular
import LessonLang.Proofs.Project
import LessonLang.Proofs.Yaml.Write

/-!
Loading undoes saving.

* `Lockfile.normalize_normalize`: the regular form is reached at once, and `Lockfile.StablySorted` says
  what becomes of the entries.
* Texts are `SameButTime` if they differ in the line with the time only, as the texts of one lockfile at
  two times do (`Lockfile.toText_sameButTime`).
* `World.load_of_save`: what is loaded from a path is the lockfile that was saved there, and to save it
  again changes nothing but that line.
-/

namespace LessonLang

namespace Lockfile

open Yaml (lineFeed)

variable {l : Lockfile}

/-! ### The regular form -/

@[simp]
lemma normalize_normalize (l : Lockfile) : l.normalize.normalize = l.normalize :=
  (normalize_eq_self_iff (ordered_normalize l) (cleanHead_normalize l)).mpr (clean_normalize l)

/-- Some entries in the order of their names, where those of one name are in the order in which they
were. -/
structure StablySorted (es sorted : List LockedLesson) : Prop where
  perm : sorted.Perm es
  pairwise : sorted.Pairwise fun a b => a.name ≤ b.name
  stable : ∀ key, (sorted.filter fun e => e.name == key) = es.filter fun e => e.name == key

lemma stablySorted_sort (es : List LockedLesson) : StablySorted es (sort es) :=
  ⟨List.mergeSort_perm es _, pairwise_sort es, filter_sort es⟩

/-! ### Texts at two times -/

/-- **Two texts that differ in the line with the time only.** -/
def SameButTime (t t' : Text) : Prop :=
  ∃ front back value value' : Text, t = front ++ (utf8 "generated: " ++ value ++ [lineFeed]) ++ back
    ∧ t' = front ++ (utf8 "generated: " ++ value' ++ [lineFeed]) ++ back
    ∧ front.getLast? = some lineFeed ∧ lineFeed ∉ value ∧ lineFeed ∉ value'

/-- What is written behind the time. -/
def behindTime (l : Lockfile) : Text :=
  Yaml.writeField 2 "tool" l.tool ++ match l.entries with
    | [] => utf8 "lessons: []\n"
    | es => utf8 "lessons:\n" ++ es.flatMap LockedLesson.toText

lemma toText_eq (l : Lockfile) :
    l.toText = Yaml.writeField 2 "root" l.root ++ Yaml.writeField 2 "generated" l.generated
      ++ l.behindTime :=
  List.append_assoc ..

lemma toText_sameButTime {l l' : Lockfile} (hroot : l'.root = l.root)
    (hbehind : l'.behindTime = l.behindTime) (hl : Timestamp.IsShown l.generated)
    (hl' : Timestamp.IsShown l'.generated) : SameButTime l.toText l'.toText := by
  have hkey : utf8 "generated" ++ utf8 ": " = utf8 "generated: " := by decide
  obtain ⟨value, hvalue, hline⟩ := hl.exists_line 2 "generated"
  obtain ⟨value', hvalue', hline'⟩ := hl'.exists_line 2 "generated"
  refine ⟨Yaml.writeField 2 "root" l.root, l.behindTime, value, value', ?_, ?_,
    Yaml.getLast?_writeField .., hline, hline'⟩
  · rw [toText_eq, hvalue, hkey]
  · rw [toText_eq, hvalue', hkey, hroot, hbehind]

/-! ### Saving -/

lemma normalize_stamp (l : Lockfile) (now path : Text) :
    (l.stamp now path).normalize = l.stamp now path :=
  normalize_normalize _

/-- Time and path have no part in the normal form. -/
lemma normalize_moved (l : Lockfile) (now path : Text) :
    normalize { l with generated := now, path } = { l.normalize with generated := now, path } := rfl

/-- To save a lockfile again only changes its time and its path. -/
lemma stamp_stamp (l : Lockfile) (now now' path path' : Text) :
    (l.stamp now path).stamp now' path' = { l.stamp now path with generated := now', path := path' } := by
  rw [stamp, normalize_moved, normalize_stamp]

/-- **The text of a lockfile that was saved** is read as that lockfile. -/
lemma ofText_stamp {now : Text} (hnow : now.trim = now) {path : Text}
    (hread : (l.stamp now path).ReadsBack) :
    ofText path (l.stamp now path).toText = .ok (l.stamp now path) := by
  have htrim : (l.stamp now path).generated.trim = (l.stamp now path).generated := hnow
  rw [ofText, hread, Except.map, htrim]
  exact congrArg _ (l.normalize_stamp now path)

/-- The path that a lockfile is saved to: its own, if none is given. -/
def savePath (l : Lockfile) (path : Text) : Text := if path.isEmpty then l.path else path

end Lockfile

namespace World

variable {ρ : Type} [Git ρ] {w w' : World ρ} {path : Text} {lock written : Lockfile}

lemma perform_save_savePath (lock : Lockfile) (path : Text) :
    w.perform (lock.save path) = w.perform (lock.save (lock.savePath path)) := by
  rw [Lockfile.save, Lockfile.save, Lockfile.savePath]
  cases hpath : path.isEmpty
  · simp [hpath]
  · simp

lemma perform_save_noPath (hpath : lock.savePath path = []) :
    w.perform (lock.save path) = ((.error .noPath, lock), w) := by
  have hempty : (if path.isEmpty then lock.path else path) = [] := hpath
  rw [Lockfile.save]
  dsimp only
  rw [hempty]
  rfl

/-- What is written is the lockfile with the time and the path of the attempt. -/
lemma perform_save_ok (h : w.perform (lock.save path) = ((.ok (), written), w')) :
    lock.savePath path ≠ []
      ∧ written = lock.stamp w.time (Path.absolute w.directory (lock.savePath path))
      ∧ ∃ d, w.disk.write w.directory (Path.absolute w.directory (lock.savePath path)) written.toText
          = .ok d ∧ w' = { w with disk := d } := by
  have hne : lock.savePath path ≠ [] := by
    intro hnil
    rw [perform_save_noPath hnil] at h
    exact absurd (Prod.mk.inj (Prod.mk.inj h).1).1 (by simp)
  rw [perform_save_savePath, perform_save hne] at h
  split at h
  · rename_i d hwrite
    obtain ⟨hwritten, rfl⟩ := Prod.mk.inj h
    obtain rfl := (Prod.mk.inj hwritten).2
    exact ⟨hne, rfl, d, hwrite, rfl⟩
  · exact absurd (Prod.mk.inj (Prod.mk.inj h).1).1 (by simp)

/-- **Loading undoes saving.** What is loaded from the path that a lockfile was saved to is the lockfile
as it was left by that. Its lessons are those that were there, with keys as names and without white
space around their fields, stably sorted by their names. It can be saved there again, and wherever and
whenever it is saved, the text is the same but for the line with the time. The text of a lockfile is
read as the fields that were written. -/
theorem load_of_save (hclock : Timestamp.IsShown w.time)
    (hsave : w.perform (lock.save path) = ((.ok (), written), w')) (hread : written.ReadsBack) :
    w'.perform (loadLockfile (lock.savePath path)) = (.ok written, w')
    ∧ (∃ es, written.lessons = es.map some
        ∧ Lockfile.StablySorted (lock.entries.map LockedLesson.normalize) es)
    ∧ w'.disk.read w'.directory written.path = .ok written.toText
    ∧ (∀ later, ∃ again w'', { w' with time := later }.perform (written.save (lock.savePath path))
        = ((.ok (), again), w''))
    ∧ ∀ (w₁ w₂ : World ρ) (path' : Text) (again : Lockfile), Timestamp.IsShown w₁.time →
      w₁.perform (written.save path') = ((.ok (), again), w₂) →
      w₂.disk.read w₂.directory again.path = .ok again.toText
        ∧ Lockfile.SameButTime written.toText again.toText := by
  obtain ⟨hne, rfl, d, hwrite, rfl⟩ := perform_save_ok hsave
  refine ⟨?_, ⟨lock.sortedEntries, rfl, Lockfile.stablySorted_sort _⟩, Disk.read_of_write hwrite, ?_, ?_⟩
  · rw [perform_loadLockfile hne, Disk.read_of_write hwrite]
    dsimp only
    rw [Lockfile.ofText_stamp hclock.trim hread]
    rfl
  · intro later
    obtain ⟨d', hagain⟩ := Disk.exists_write_of_write hwrite
      ((lock.stamp w.time (Path.absolute w.directory (lock.savePath path))).stamp later
        (Path.absolute w.directory (lock.savePath path))).toText
    rw [perform_save hne]
    dsimp only
    rw [hagain]
    exact ⟨_, _, rfl⟩
  · intro w₁ w₂ path' again hclock₁ hsave₁
    obtain ⟨-, rfl, d₁, hwrite₁, rfl⟩ := perform_save_ok hsave₁
    refine ⟨Disk.read_of_write hwrite₁, ?_⟩
    rw [Lockfile.stamp_stamp]
    exact Lockfile.toText_sameButTime rfl rfl hclock hclock₁

/-- A directory to write to, at the start of 1970. -/
def emptyWorld : World where
  disk.entries := [([utf8 "p"], .directory)]
  directory := utf8 "/p"
  time := Timestamp.text 0

/-- A lockfile that was put together by hand. -/
def untidyLockfile : Lockfile where
  path := utf8 "/p/old.lock"
  root := utf8 "my-app"
  tool := utf8 " dada "
  lessons := [some { name := utf8 "tour", version := utf8 " 2 " }, none,
    some { name := utf8 "a-b", source := utf8 "path+/b\n" }, some { name := utf8 "tour" }]

/-- What is written of it. -/
def tidyLockfile : Lockfile where
  path := utf8 "/p/new.lock"
  root := utf8 "my_app"
  generated := utf8 "1970-01-01T00:00:00Z"
  tool := utf8 "dada"
  lessons := [some { name := utf8 "a_b", source := utf8 "path+/b" },
    some { name := utf8 "tour", version := utf8 "2" }, some { name := utf8 "tour" }]

/-- A lockfile that was put together by hand is loaded as it was written. -/
theorem load_of_save_untidy :
    (emptyWorld.perform (untidyLockfile.save (utf8 "new.lock"))).1 = (.ok (), tidyLockfile)
      ∧ ((emptyWorld.perform (untidyLockfile.save (utf8 "new.lock"))).2.perform
          (loadLockfile (utf8 "new.lock"))).1 = .ok tidyLockfile := by
  have hstamp : untidyLockfile.stamp emptyWorld.time
      (Path.absolute emptyWorld.directory (utf8 "new.lock")) = tidyLockfile := by cbv
  obtain ⟨w', hsave⟩ : ∃ w', emptyWorld.perform (untidyLockfile.save (utf8 "new.lock"))
      = ((.ok (), tidyLockfile), w') := by
    rw [perform_save (by decide), hstamp]
    exact ⟨_, rfl⟩
  have hread : tidyLockfile.ReadsBack := by
    unfold Lockfile.ReadsBack
    decide +kernel
  obtain ⟨hload, -⟩ := load_of_save ⟨0, rfl⟩ hsave hread
  rw [hsave]
  exact ⟨rfl, congrArg Prod.fst hload⟩

end World

end LessonLang
