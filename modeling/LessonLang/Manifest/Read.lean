import LessonLang.Manifest
import LessonLang.Yaml.Record

/-!
Manifests as YAML documents.

* `ManifestFields.record` says which fields a manifest file has and how they are read. Targets and
  lessons are mappings from names; a target may be given by its program alone.
* A list, a mapping of targets or one of lessons that has the tag of null is read by the plain rules for
  lists and mappings, which differ in small ways.
* `Manifest.ofText` reads a manifest file and checks it.
-/

namespace LessonLang

open Yaml

/-- Reads the items of a list of texts, up to one that is no text; then the whole list counts for
nothing. A null item is an empty text. -/
def readItems : List Node → Decoder (Option (List Text))
  | [] => pure (some [])
  | n :: rest => do
    match ← Decoder.whole (Decoder.text n) with
    | none => pure none
    | some t =>
      let more ← readItems rest
      pure (more.map (t.getD [] :: ·))

/-- Reads a list of texts. A single scalar is a list of one; its text counts as it is written. Under the
tag of null, null items are dropped. -/
def readTexts (n : Node) (old : List Text) : Decoder (List Text) :=
  Decoder.follow n fun n => do
    if n.tag == Tag.null then
      pure ((← Decoder.listOf (utf8 "driver.stringList") Decoder.text n).getD old)
    else match n with
      | .scalar _ _ value => pure [value]
      | .sequence _ _ items => pure ((← readItems items).getD old)
      | n =>
        .fail (.refused (utf8 "manifest: expected string or sequence for list but found " ++ n.tag))

/-- Reads the entries of a mapping from names. `read` gets a name and what it stands for. If a name is
no text, the whole mapping counts for nothing. -/
def readNamed {α : Type} (key : Text → Text) (refusal : String) (read : Text → Node → Decoder α) :
    List (Node × Node) → Decoder (Option (List (Text × α)))
  | [] => pure (some [])
  | (k, v) :: rest => do
    match ← Decoder.whole (Decoder.text k) with
    | none => pure none
    | some name =>
      let name := key (name.getD [])
      if name.isEmpty then .fail (.refused (utf8 refusal))
      else
        let a ← read name v
        let more ← readNamed key refusal read rest
        pure (more.map ((name, a) :: ·))

/-! ### Targets -/

/-- The fields of a target. -/
def TargetFields.record : MappingType TargetFields :=
  .record "driver.targetYAML" false
    [.ofText "main" fun t v => { t with main := v },
     ⟨utf8 "inputs", fun n t => do pure { t with inputs := ← readTexts n t.inputs }⟩,
     .ofText "lesson" fun t v => { t with lesson := v }]

/-- Reads a target: a scalar is its program, and a mapping has its fields. -/
def TargetFields.read (name : Text) (n : Node) : Decoder TargetFields :=
  let fields : Decoder TargetFields :=
    Decoder.within (utf8 "manifest: target " ++ name.quoted ++ utf8 ": ") do
      pure (← TargetFields.record.read {} n).2
  match n with
  | .scalar _ tag value => if tag == Tag.null then fields else pure { main := value }
  | _ => fields

/-- The targets: a mapping from names. Under the tag of null a mapping can have no entries of its own,
but it may merge in another one. -/
def readTargets : MappingType (List (Text × TargetFields)) :=
  { MappingType.record "driver.targetMap" true [] with
    own := some fun n old => do
      match n with
      | .mapping _ _ es =>
        let targets ← readNamed Text.trim "manifest: targets must not use empty keys"
          TargetFields.read es
        pure (targets.getD old)
      | _ => .fail (.refused (utf8 "manifest: targets must be a mapping")) }

/-! ### Lessons -/

/-- The fields that say where a lesson comes from. -/
def Lesson.places : List (Yaml.Field Lesson) :=
  [.ofText "git" fun l v => { l with git := v },
   .ofText "rev" fun l v => { l with rev := v },
   .ofText "tag" fun l v => { l with tag := v },
   .ofText "branch" fun l v => { l with branch := v },
   .ofText "path" fun l v => { l with path := v }]

/-- The fields of a lesson. -/
def Lesson.record : MappingType Lesson :=
  .record ("struct \x7b Git string \"yaml:\\\"git\\\"\"; Rev string \"yaml:\\\"rev\\\"\"; "
    ++ "Tag string \"yaml:\\\"tag\\\"\"; Branch string \"yaml:\\\"branch\\\"\"; "
    ++ "Path string \"yaml:\\\"path\\\"\" \x7d") false Lesson.places

/-- Reads a lesson under its key. -/
def Lesson.read (key : Text) (n : Node) : Decoder Lesson :=
  Decoder.within (utf8 "manifest: lesson " ++ key.quoted ++ utf8 ": ") do
    let (_, l) ← Lesson.record.read {} n
    pure { name := key, git := l.git.trim, rev := l.rev.trim, tag := l.tag.trim,
           branch := l.branch.trim, path := l.path.trim }

/-- A lesson as it stands in a mapping with the tag of null: with its name among the fields. -/
def Lesson.rawRecord : MappingType Lesson :=
  .record "driver.LessonSpec" true (.ofText "name" (fun l v => { l with name := v }) :: Lesson.places)

/-- Reads a lesson of a mapping with the tag of null. It may be null. -/
def Lesson.readRaw (n : Node) : Decoder (Option (Option Lesson)) :=
  Decoder.follow n fun n => do
    match n with
    | .scalar _ tag value =>
      let (found, _) ← Decoder.scalar tag value
      if found == Tag.null then pure (some none)
      else
        Decoder.mismatch n Lesson.rawRecord.name
        pure none
    | n =>
      if n.tag == Tag.null then
        Decoder.mismatch n (0x2a :: Lesson.rawRecord.name)
        pure none
      else
        let (good, _, l) ← Lesson.rawRecord.readNode (← get).depth none {} n
        pure (if good then some (some l) else none)

/-- The lessons: a mapping from names. Of two with the same key the later counts. Under the tag of null
the keys and the fields count as they are written. -/
def readLessons : MappingType (Table (Option Lesson)) where
  name := utf8 "driver.lessonMap"
  null := fun _ => some []
  own := some fun n old => do
    match n with
    | .mapping _ _ es =>
      let lessons ← readNamed keyOf "manifest: lesson names must be non-empty" Lesson.read es
      pure ((lessons.map fun ls => Table.ofList (ls.map fun (k, l) => (k, some l))).getD old)
    | _ => .fail (.refused (utf8 "manifest: lessons must be a mapping"))
  entry _ _ key v lessons := do
    match ← Lesson.readRaw v with
    | some l => pure (lessons.set key l)
    | none => pure lessons

/-! ### Manifests -/

/-- The fields of a manifest. -/
def ManifestFields.record : MappingType ManifestFields :=
  .record "driver.manifestFile" true
    [.ofText "name" fun m v => { m with name := v },
     .ofText "version" fun m v => { m with version := v },
     ⟨utf8 "authors", fun n m => do pure { m with authors := ← readTexts n m.authors }⟩,
     ⟨utf8 "targets", fun n m => do pure { m with targets := (← readTargets.read m.targets n).2 }⟩,
     ⟨utf8 "lessons", fun n m => do pure { m with lessons := (← readLessons.read m.lessons n).2 }⟩]

/-- Why a manifest file is no manifest. -/
inductive ManifestError where
  | document (e : DocumentError)
  | invalid (issues : List Issue)
  deriving DecidableEq, Repr

/-- The message for a manifest file at `path`. -/
def ManifestError.message (path : Text) : ManifestError → Text
  | document .noDocument => utf8 "manifest: " ++ path ++ utf8 " is empty"
  | document e => utf8 "manifest: parse " ++ path ++ utf8 ": " ++ e.message
  | invalid issues => validationMessage (issues.map Issue.message)

/-- Checks a manifest. -/
def Manifest.check (m : Manifest) : Except ManifestError Manifest :=
  match m.issues with
  | [] => .ok m
  | issues => .error (.invalid issues)

/-- Reads and checks the manifest file at `path`. -/
def Manifest.ofText (path content : Text) : Except ManifestError Manifest :=
  match readDocument ManifestFields.record {} content with
  | .error e => .error (.document e)
  | .ok fields => (Manifest.ofFields path fields).check

end LessonLang
