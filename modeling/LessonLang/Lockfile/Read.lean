import LessonLang.Lockfile
import LessonLang.Yaml.Record

/-!
Lockfiles as YAML documents.

* `Lockfile.record` says which fields a lockfile has and how they are read.
* `Lockfile.ofText` reads a lockfile and brings it into its regular form.
-/

namespace LessonLang

open Yaml

/-- The fields of an entry. -/
def LockedLesson.record : MappingType LockedLesson :=
  .record "driver.lockfileLesson" true
    [.ofText "name" fun l v => { l with name := v },
     .ofText "version" fun l v => { l with version := v },
     .ofText "source" fun l v => { l with source := v },
     .ofText "checksum" fun l v => { l with checksum := v }]

/-- Reads an entry, if there is one. -/
def LockedLesson.read (n : Node) : Decoder (Option LockedLesson) := do
  let (good, l) ← LockedLesson.record.read {} n
  pure (if good then some l else none)

/-- Reads the entries of a lockfile. -/
def Lockfile.readLessons (n : Node) (l : Lockfile) : Decoder Lockfile :=
  Decoder.follow n fun n => do
    match ← Decoder.listOf (utf8 "[]driver.lockfileLesson") LockedLesson.read n with
    | some entries => pure { l with lessons := entries.map some }
    | none => pure l

/-- The fields of a lockfile. -/
def Lockfile.record : MappingType Lockfile :=
  .record "driver.lockfileDisk" true
    [.ofText "root" fun l v => { l with root := v },
     .ofText "generated" fun l v => { l with generated := v },
     .ofText "tool" fun l v => { l with tool := v },
     ⟨utf8 "lessons", Lockfile.readLessons⟩]

/-- Reads the lockfile at `path`. -/
def Lockfile.ofText (path content : Text) : Except DocumentError Lockfile :=
  (readDocument Lockfile.record {} content).map fun l =>
    Lockfile.normalize { l with path, generated := l.generated.trim }

/-- The message for a lockfile at `path` that cannot be read. -/
def Lockfile.parseMessage (path : Text) (e : DocumentError) : Text :=
  utf8 "lockfile: parse " ++ path ++ utf8 ": " ++ e.message

end LessonLang
