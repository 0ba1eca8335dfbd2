import LessonLang.Manifest.Read
import LessonLang.Proofs.Yaml.Misfits

/-!
Manifests with aliases.

* `Manifest.Part` names what a node of a manifest file is read as, and `Manifest.Step` goes from a node to
  the nodes inside it that are read in turn. `Manifest.Plain` gathers what is asked of the nodes that
  reading comes to: mappings keep their keys where aliases are replaced, and no target is an alias for a
  program.
* `Manifest.ofDocument_copied`: under these conditions, a manifest file is loaded like the file in which
  every alias is replaced by what it refers to.
* `Manifest.read_alias_program`: the condition on targets is needed. An alias for a program is refused where
  the program itself is taken.
-/

namespace LessonLang

open Yaml Yaml.Decoder

namespace Manifest

/-! ### Parts of a manifest file -/

/-- What a node of a manifest file is read as. A raw lesson is one of a mapping that has the tag of null, and
contents are texts and lists of texts. -/
inductive Part where
  | manifest
  | targets
  | target
  | lessons
  | lesson
  | rawLesson
  | content
  deriving DecidableEq

namespace Part

/-- What the names of a mapping stand for, if they are free. -/
def named : Part → Option Part
  | targets => some target
  | lessons => some lesson
  | _ => none

/-- What a field stands for. -/
def field : Part → Text → Part
  | manifest, name =>
    if name == utf8 "targets" then targets else if name == utf8 "lessons" then lessons else content
  | lessons, _ => rawLesson
  | _, _ => content

/-- Nodes with the tag are read field by field. -/
def ByFields (p : Part) (tag : Text) : Prop := p.named = none ∨ tag = Tag.null

instance (p : Part) (tag : Text) : Decidable (p.ByFields tag) := inferInstanceAs (Decidable (_ ∨ _))

end Part

/-- A step of reading: from a node and what it is read as to a node that is read in turn. -/
inductive Step (A : List (Nat × Node)) : Part × Node → Part × Node → Prop where
  | behind {p : Part} {line number target : Nat} {name : Text} {n : Node}
      (hlookup : A.lookup target = some n) : Step A (p, .aliasNode line name number target) (p, n)
  | named {p q : Part} {line : Nat} {tag : Text} {entries : List (Node × Node)} {e : Node × Node}
      (hnamed : p.named = some q) (htag : tag ≠ Tag.null) (he : e ∈ entries) :
      Step A (p, .mapping line tag entries) (q, e.2)
  | field {p : Part} {line : Nat} {tag key : Text} {entries : List (Node × Node)} {e : Node × Node}
      (hfields : p.ByFields tag) (he : e ∈ entries) (hkey : (e.1.meant A).text? = some key) :
      Step A (p, .mapping line tag entries) (p.field key, e.2)
  | merged {p : Part} {line : Nat} {tag : Text} {entries : List (Node × Node)} {e : Node × Node} {m : Node}
      (hfields : p.ByFields tag) (he : e ∈ entries) (hkey : MappingType.isMergeKey e.1 = true)
      (hm : m ∈ MappingType.mergedNodes e.2) : Step A (p, .mapping line tag entries) (p, m)

/-- A target that is given by its program alone. -/
def isProgram : Node → Bool
  | .scalar _ tag _ => tag != Tag.null
  | _ => false

/-- **The nodes that reading comes to** from a node keep their keys where aliases are replaced, and no target
among them is an alias for a program. -/
structure Plain (A : List (Nat × Node)) (p : Part) (n : Node) : Prop where
  keys : ∀ {q line tag entries}, Relation.ReflTransGen (Step A) (p, n) (q, .mapping line tag entries) →
    q ≠ .content → q.ByFields tag → KeepsKeys A entries
  targets : ∀ {line tag entries},
    Relation.ReflTransGen (Step A) (p, n) (.targets, .mapping line tag entries) → tag ≠ Tag.null →
    ∀ e ∈ entries, e.2.isAlias = true → isProgram (e.2.meant A) = false

variable {A : List (Nat × Node)} {F : List Nat} {p q : Part} {n n' m : Node}

/-- What is reached from a plain node in one step is plain. -/
lemma Plain.step (h : Plain A p n) (hstep : Step A (p, n) (q, m)) : Plain A q m where
  keys hreads := h.keys (.head hstep hreads)
  targets hreads := h.targets (.head hstep hreads)

/-- What a plain node means is plain. -/
lemma Plain.meant (h : Plain A p n) : Plain A p (n.meant A) := by
  cases n with
  | aliasNode line name number target =>
      rw [Node.meant]
      cases hlookup : A.lookup target with
      | none => exact h
      | some n => exact h.step (.behind hlookup)
  | _ => exact h

/-- The nodes that reading comes to are the node itself and those that it comes to after a step. -/
lemma Plain.of_step
    (hkeys : ∀ {line tag entries}, n = .mapping line tag entries → p ≠ .content → p.ByFields tag →
      KeepsKeys A entries)
    (htargets : ∀ {line tag entries}, n = .mapping line tag entries → p = .targets → tag ≠ Tag.null →
      ∀ e ∈ entries, e.2.isAlias = true → isProgram (e.2.meant A) = false)
    (hstep : ∀ {q m}, Step A (p, n) (q, m) → Plain A q m) : Plain A p n where
  keys hreads hcontent hfields := by
    obtain hself | ⟨⟨q, m⟩, hfirst, hreads⟩ := Relation.ReflTransGen.cases_head hreads
    · obtain ⟨rfl, hn⟩ := Prod.mk.inj hself
      exact hkeys hn hcontent hfields
    · exact (hstep hfirst).keys hreads hcontent hfields
  targets hreads htag := by
    obtain hself | ⟨⟨q, m⟩, hfirst, hreads⟩ := Relation.ReflTransGen.cases_head hreads
    · obtain ⟨hp, hn⟩ := Prod.mk.inj hself
      exact htargets hn hp htag
    · exact (hstep hfirst).targets hreads htag

/-! ### Nodes to which the conditions apply -/

/-- A scalar is plain in any part. -/
lemma Plain.scalar (p : Part) {line : Nat} {tag value : Text} : Plain A p (.scalar line tag value) :=
  Plain.of_step (fun h => absurd h (by simp)) (fun h => absurd h (by simp)) fun h => by cases h

/-- An alias is plain if what it stands for is. -/
lemma Plain.aliasNode {line number target : Nat} {name : Text} (hlookup : A.lookup target = some n)
    (hn : Plain A p n) : Plain A p (.aliasNode line name number target) := by
  refine Plain.of_step (fun h => absurd h (by simp)) (fun h => absurd h (by simp)) fun h => ?_
  cases h with
  | behind hlookup' =>
      obtain rfl := Option.some.inj (hlookup.symm.trans hlookup')
      exact hn

/-- A mapping that merges no other mapping in. -/
lemma Plain.mapping (p : Part) {line : Nat} {tag : Text} {entries : List (Node × Node)}
    (hkeys : KeepsKeys A entries) (hmerge : ∀ e ∈ entries, MappingType.isMergeKey e.1 = false)
    (hprogram : ∀ e ∈ entries, e.2.isAlias = true → isProgram (e.2.meant A) = false)
    (hvalues : ∀ e ∈ entries, ∀ q, Plain A q e.2) : Plain A p (.mapping line tag entries) := by
  refine Plain.of_step (fun h _ _ => ?_) (fun h _ _ => ?_) fun h => ?_
  · obtain ⟨-, -, rfl⟩ := Node.mapping.inj h
    exact hkeys
  · obtain ⟨-, -, rfl⟩ := Node.mapping.inj h
    exact hprogram
  · cases h with
    | named _ _ he => exact hvalues _ he _
    | field _ he => exact hvalues _ he _
    | merged _ he hkey => exact absurd hkey (by simp [hmerge _ he])

/-! ### Texts and lists of texts -/

/-- Items are read alike from a list and from its copy. -/
lemma alike_readItems {items items' : List Node} (h : List.Forall₂ (Copies A F) items items') :
    Alike A F Eq (readItems items) (readItems items') := by
  induction h with
  | nil => exact alike_pure rfl
  | cons hhead _ ih =>
      refine (alike_whole (alike_text_eq hhead)).bind ?_
      rintro t _ rfl
      cases t with
      | none => exact alike_pure rfl
      | some t =>
          exact ih.bind_pure

/-- Texts are read alike, from one scalar or from a list. -/
lemma alike_readTexts (h : Copies A F n n') (old : List Text) :
    Alike A F Eq (readTexts n old) (readTexts n' old) := by
  refine alike_follow h fun G hcopy halias => ?_
  generalize n.meant A = m at *
  rw [hcopy.tag_eq halias]
  split_ifs
  · exact (alike_listOf _ hcopy halias fun i i' hi => alike_text_eq hi).bind_pure
  · cases m with
    | scalar =>
        cases hcopy
        exact alike_pure rfl
    | sequence =>
        obtain ⟨line', items', rfl, hitems⟩ := hcopy.items
        exact (alike_readItems hitems).bind_pure
    | mapping =>
        obtain ⟨line', entries', rfl, -⟩ := hcopy.entries
        exact alike_fail rfl
    | aliasNode => exact absurd halias (by simp)

/-- **Named entries are read alike** if each entry is. -/
lemma alike_readNamed {α : Type} {key : Text → Text} {refusal : String} {read : Text → Node → Decoder α}
    {es es' : List (Node × Node)}
    (h : List.Forall₂ (fun e e' => CopiesEntry A F e e' ∧
      ∀ name, Alike A F Eq (read name e.2) (read name e'.2)) es es') :
    Alike A F Eq (readNamed key refusal read es) (readNamed key refusal read es') := by
  induction h with
  | nil => exact alike_pure rfl
  | cons hhead _ ih =>
      refine (alike_whole (alike_text_eq hhead.1.1)).bind ?_
      rintro t _ rfl
      cases t with
      | none => exact alike_pure rfl
      | some name =>
          dsimp only
          split_ifs
          · exact alike_fail rfl
          · refine (hhead.2 _).bind ?_
            rintro a _ rfl
            exact ih.bind_pure

/-- Reads a mapping from names, of which `finish` makes a value. All else is refused. -/
def readOwn {α β : Type} (key : Text → Text) (refusal : String) (read : Text → Node → Decoder α)
    (message : String) (finish : Option (List (Text × α)) → β) : Node → Decoder β
  | .mapping _ _ es => do pure (finish (← readNamed key refusal read es))
  | _ => .fail (.refused (utf8 message))

/-- Collections with a reader of their own are read alike from a mapping and its copy. -/
lemma alike_own {α β : Type} {key : Text → Text} {refusal message : String}
    {read : Text → Node → Decoder α} (finish : Option (List (Text × α)) → β)
    (halias : n.isAlias = false) (hcopy : Copies A F n n')
    (h : ∀ {line tag entries}, n = .mapping line tag entries → ∀ e ∈ entries, ∀ name n',
      Copies A F e.2 n' → Alike A F Eq (read name e.2) (read name n')) :
    Alike A F Eq (readOwn key refusal read message finish n)
      (readOwn key refusal read message finish n') := by
  cases n with
  | mapping line tag entries =>
      obtain ⟨line', entries', rfl, hes⟩ := hcopy.entries
      have hread := (forall₂_mem_left hes).imp fun e e' he => And.intro he.2 fun name =>
        h rfl e he.1 name e'.2 he.2.2
      exact (alike_readNamed hread).bind_pure
  | scalar =>
      cases hcopy
      exact alike_fail rfl
  | sequence =>
      obtain ⟨line', items', rfl, -⟩ := hcopy.items
      exact alike_fail rfl
  | aliasNode => exact absurd halias (by simp)

/-! ### Records -/

/-- **Aliases are transparent to a record** if they are to its fields. -/
lemma transparent_record {σ : Type} {name : String} {strict : Bool} {fields : List (Yaml.Field σ)}
    (hp : p.named = none) (hcontent : p ≠ .content)
    (h : ∀ f ∈ fields, ∀ {F n n'}, Plain A (p.field f.name) n → Copies A F n n' →
      ∀ v, Alike A F Eq (f.read n v) (f.read n' v)) :
    (MappingType.record name strict fields).Transparent A (Plain A p) where
  meant := Plain.meant
  own hown := absurd hown (by simp [MappingType.record])
  keys hn _ := hn.keys .refl hcontent (.inl hp)
  merged hn _ e he hkey m hm := hn.step (.merged (.inl hp) he hkey hm)
  entry hn _ e he _ key htext F n' hcopy done l l' v :=
    MappingType.alike_record_entry (fun f hf hname v =>
      h f hf (hname ▸ hn.step (.field (.inl hp) he htext)) hcopy v) done l l' v

/-! ### Targets -/

/-- The fields of a target may be written as aliases. -/
lemma transparent_target : TargetFields.record.Transparent A (Plain A .target) := by
  refine transparent_record rfl (by decide) fun f hf F n n' _ hcopy v => ?_
  simp only [List.mem_cons, List.not_mem_nil, or_false] at hf
  obtain rfl | rfl | rfl := hf
  · exact alike_ofText hcopy v
  · exact (alike_readTexts hcopy _).bind_pure
  · exact alike_ofText hcopy v

/-- A node stands for a program if its copy does. -/
lemma isProgram_eq (h : Copies A F n n') : isProgram (n.meant A) = isProgram n' := by
  obtain ⟨G, -, halias, hmeant⟩ := h.meant
  generalize n.meant A = m at *
  cases hmeant with
  | aliasNode => exact absurd halias (by simp)
  | _ => rfl

/-- A target is alike unless it is an alias for a program. -/
lemma alike_target (name : Text) (hn : Plain A .target n) (hcopy : Copies A F n n')
    (hprogram : n.isAlias = true → isProgram (n.meant A) = false) :
    Alike A F Eq (TargetFields.read name n) (TargetFields.read name n') := by
  have hfields : Alike A F Eq
      (within (utf8 "manifest: target " ++ name.quoted ++ utf8 ": ") do
        pure (← TargetFields.record.read {} n).2)
      (within (utf8 "manifest: target " ++ name.quoted ++ utf8 ": ") do
        pure (← TargetFields.record.read {} n').2) := by
    refine alike_within _ ((transparent_target.read hn hcopy {}).bind ?_)
    rintro t _ rfl
    exact alike_pure rfl
  cases n with
  | scalar =>
      cases hcopy
      simp only [TargetFields.read]
      split_ifs
      · exact hfields
      · exact alike_pure rfl
  | sequence =>
      obtain ⟨line', items', rfl, -⟩ := hcopy.items
      exact hfields
  | mapping =>
      obtain ⟨line', entries', rfl, -⟩ := hcopy.entries
      exact hfields
  | aliasNode =>
      have hform : isProgram n' = false := by rw [← isProgram_eq hcopy, hprogram rfl]
      cases n' with
      | scalar line tag value =>
          have htag : tag = Tag.null := by simpa [isProgram] using hform
          simp only [TargetFields.read, htag, BEq.rfl, if_true]
          exact htag ▸ hfields
      | aliasNode => exact absurd hcopy.isAlias_eq_false (by simp)
      | _ => exact hfields

/-- The targets may be written with aliases. -/
lemma transparent_targets : readTargets.Transparent A (Plain A .targets) where
  meant := Plain.meant
  own hown F n n' hn halias htag hcopy v := by
    obtain rfl := Option.some.inj hown
    refine alike_own (fun ts => ts.getD v) halias hcopy fun hform e he name m hentry => ?_
    subst hform
    exact alike_target name (hn.step (.named rfl htag he)) hentry (hn.targets .refl htag e he)
  keys hn htag := hn.keys .refl (by decide) (.inr (htag.resolve_left (by simp [readTargets])))
  merged hn htag e he hkey m hm :=
    hn.step (.merged (.inr (htag.resolve_left (by simp [readTargets]))) he hkey hm)
  entry hn htag e he _ key htext F n' hcopy done l l' v := by
    have hentry := @MappingType.alike_record_entry (List (Text × TargetFields)) A F e.2 n'
      "driver.targetMap" true [] key (fun f hf => absurd hf List.not_mem_nil) done l l' v
    exact hentry

/-! ### Lessons -/

lemma alike_place {σ : Type} {f : Yaml.Field σ} (h : ∃ name set, f = Yaml.Field.ofText name set)
    (hcopy : Copies A F n n') (v : σ) : Alike A F Eq (f.read n v) (f.read n' v) := by
  obtain ⟨name, set, rfl⟩ := h
  exact alike_ofText hcopy v

/-- Each place of a lesson is a text. -/
lemma exists_of_mem_places {f : Yaml.Field Lesson} (hf : f ∈ Lesson.places) :
    ∃ name set, f = Yaml.Field.ofText name set := by
  simp only [Lesson.places, List.mem_cons, List.not_mem_nil, or_false] at hf
  obtain rfl | rfl | rfl | rfl | rfl := hf <;> exact ⟨_, _, rfl⟩

/-- The fields of a lesson may be written as aliases. -/
lemma transparent_lesson : Lesson.record.Transparent A (Plain A .lesson) :=
  transparent_record rfl (by decide) fun _ hf _ _ _ _ hcopy v =>
    alike_place (exists_of_mem_places hf) hcopy v

/-- So may those of a lesson in a list. -/
lemma transparent_rawLesson : Lesson.rawRecord.Transparent A (Plain A .rawLesson) := by
  refine transparent_record rfl (by decide) fun f hf F n n' _ hcopy v => alike_place ?_ hcopy v
  obtain rfl | hf := List.mem_cons.mp hf
  · exact ⟨_, _, rfl⟩
  · exact exists_of_mem_places hf

/-- A lesson is read alike from a node and its copy, as a mapping or as a text. -/
lemma alike_lesson (key : Text) (hn : Plain A .lesson n) (hcopy : Copies A F n n') :
    Alike A F Eq (Lesson.read key n) (Lesson.read key n') := by
  refine alike_within _ ((transparent_lesson.read hn hcopy {}).bind ?_)
  rintro l _ rfl
  exact alike_pure rfl

/-- Reads a lesson of a mapping with the tag of null that is no scalar. -/
def readRawCollection (n : Node) : Decoder (Option (Option Lesson)) := do
  if n.tag == Tag.null then
    mismatch n (0x2a :: Lesson.rawRecord.name)
    pure none
  else
    let (good, _, l) ← Lesson.rawRecord.readNode (← get).depth none {} n
    pure (if good then some (some l) else none)

/-- Lists of lessons are read alike. -/
lemma alike_rawCollection (hn : Plain A .rawLesson n) (halias : n.isAlias = false)
    (hcopy : Copies A F n n') : Alike A F Eq (readRawCollection n) (readRawCollection n') := by
  rw [readRawCollection, readRawCollection, hcopy.tag_eq halias]
  split_ifs
  · exact (alike_mismatch _ _ _ _).bind fun _ _ _ => alike_pure rfl
  · refine alike_get.bind fun s s' hdepth => ?_
    rw [hdepth]
    refine (transparent_rawLesson.readsAlike s'.depth none {} hn halias hcopy).bind ?_
    rintro ⟨good, keys, l⟩ _ rfl
    exact alike_pure rfl

lemma alike_rawLesson (hn : Plain A .rawLesson n) (hcopy : Copies A F n n') :
    Alike A F Eq (Lesson.readRaw n) (Lesson.readRaw n') := by
  refine alike_follow hcopy fun G hcopy halias => ?_
  have hcollection := alike_rawCollection hn.meant halias hcopy
  generalize n.meant A = m at *
  cases m with
  | scalar =>
      cases hcopy
      refine (alike_scalar _ _).bind ?_
      rintro ⟨found, t⟩ _ ⟨rfl, -⟩
      dsimp only
      split_ifs
      · exact alike_pure rfl
      · exact (alike_mismatch _ _ _ _).bind fun _ _ _ => alike_pure rfl
  | sequence =>
      obtain ⟨line', items', rfl, -⟩ := hcopy.items
      exact hcollection
  | mapping =>
      obtain ⟨line', entries', rfl, -⟩ := hcopy.entries
      exact hcollection
  | aliasNode => exact absurd halias (by simp)

/-- The lessons may be written with aliases, as a mapping or as a list. -/
lemma transparent_lessons : readLessons.Transparent A (Plain A .lessons) where
  meant := Plain.meant
  own hown F n n' hn halias htag hcopy v := by
    obtain rfl := Option.some.inj hown
    refine alike_own (fun ls => (ls.map fun ls => Table.ofList (ls.map fun p => (p.1, some p.2))).getD v)
      halias hcopy fun hform e he name m hentry => ?_
    subst hform
    exact alike_lesson name (hn.step (.named rfl htag he)) hentry
  keys hn htag := hn.keys .refl (by decide) (.inr (htag.resolve_left (by simp [readLessons])))
  merged hn htag e he hkey m hm :=
    hn.step (.merged (.inr (htag.resolve_left (by simp [readLessons]))) he hkey hm)
  entry hn htag e he _ key htext F n' hcopy done l l' v := by
    have hraw : Plain A .rawLesson e.2 :=
      hn.step (.field (.inr (htag.resolve_left (by simp [readLessons]))) he htext)
    refine (alike_rawLesson hraw hcopy).bind ?_
    rintro l _ rfl
    cases l <;> exact alike_pure rfl

/-! ### Manifests -/

/-- **A whole manifest** may be written with aliases. -/
lemma transparent_manifest : ManifestFields.record.Transparent A (Plain A .manifest) := by
  refine transparent_record rfl (by decide) fun f hf F n n' hn hcopy v => ?_
  simp only [List.mem_cons, List.not_mem_nil, or_false] at hf
  obtain rfl | rfl | rfl | rfl | rfl := hf
  · exact alike_ofText hcopy v
  · exact alike_ofText hcopy v
  · exact (alike_readTexts hcopy _).bind_pure
  · exact (transparent_targets.read hn hcopy _).bind_pure
  · exact (transparent_lessons.read hn hcopy _).bind_pure

/-- Reads and checks a document as the manifest file at `path`. -/
def ofDocument (path : Text) (d : Document) (limit : Nat → Nat → Bool := isExcessive) :
    Except ManifestError Manifest :=
  match d.decode (ManifestFields.record.read {}) limit with
  | .error f => .error (.document (.fault f))
  | .ok (_, fields) => (Manifest.ofFields path fields).check

end Manifest

/-- The kind of an error: the wording of misfits, which names lines, does not count. -/
def ManifestError.kind : ManifestError → ManifestError
  | .document (.fault f) => .document (.fault f.kind)
  | e => e

namespace Manifest

/-- Up to its wording, what becomes of a document is decided by what it decodes to. -/
lemma mapError_ofDocument (path : Text) (d : Document) (limit : Nat → Nat → Bool) :
    (ofDocument path d limit).mapError ManifestError.kind
      = match (d.decode (ManifestFields.record.read {}) limit).mapError Fault.kind with
        | .error f => .error (.document (.fault f))
        | .ok (_, fields) => (Manifest.ofFields path fields).check.mapError ManifestError.kind := by
  rw [ofDocument]
  cases d.decode (ManifestFields.record.read {}) limit <;> rfl

/-- **Aliases are transparent in manifest files.** A document gives the same manifest, or fails in the same
way, as the document in which every alias is replaced by a copy of the node it refers to. This holds as
long as the document has not too many aliases, keeps its keys where they are replaced, and has no target
that is an alias for a program. -/
theorem ofDocument_copied (path : Text) {d : Document} {root : Node}
    (hcopy : Copies d.anchored [] d.root root) (hplain : Plain d.anchored .manifest d.root)
    (hlimit : ofDocument path d = ofDocument path d unlimited) :
    (ofDocument path d).mapError ManifestError.kind
      = (ofDocument path (d.copied root)).mapError ManifestError.kind := by
  rw [hlimit, mapError_ofDocument, mapError_ofDocument,
    Document.decode_copied (transparent_manifest.read hplain hcopy {})]

/-! ### Targets that are the same -/

/-- A mapping in flow style with the given keys. -/
def flow (entries : List (String × Node)) : Node :=
  .mapping 1 Tag.map (entries.map fun e => (.scalar 1 Tag.str (utf8 e.1), e.2))

/-- A manifest file with two targets. -/
def pair (one two : Node) : Node :=
  flow [("name", .scalar 1 Tag.str (utf8 "d")), ("targets", flow [("one", one), ("two", two)])]

/-- A manifest file with two targets of which the second is an alias for the first, which has an anchor. -/
def twins (target : Node) : Document where
  root := pair target (.aliasNode 1 (utf8 "t") 0 0)
  anchored := [(0, target)]
  aliases := 1
  size := 28

/-- In a document of twins, the second is a copy of the first. -/
lemma copies_twins {target : Node} (halias : target.isAlias = false)
    (h : ∀ F, Copies (twins target).anchored F target target) :
    Copies (twins target).anchored [] (twins target).root (pair target target) :=
  .of_entries (.cons ⟨.scalar, .scalar⟩ (.cons ⟨.scalar, .of_entries
    (.cons ⟨.scalar, h _⟩ (.cons ⟨.scalar, .aliasNode List.not_mem_nil rfl halias (h _)⟩ .nil))⟩ .nil))

/-- A target with a program as its only field. -/
def fieldTarget : Node := flow [("main", .scalar 1 Tag.str (utf8 "main.dada"))]

lemma plain_fieldTarget (p : Part) : Plain (twins fieldTarget).anchored p fieldTarget :=
  .mapping p (by decide) (by decide) (by decide) fun e he q => by
    obtain rfl := List.mem_singleton.mp he
    exact .scalar q

lemma plain_twins_fieldTarget : Plain (twins fieldTarget).anchored .manifest (twins fieldTarget).root := by
  refine .mapping _ (by decide) (by decide) (by decide) fun e he q => ?_
  obtain rfl | rfl : e = _ ∨ e = _ := by simpa using he
  · exact .scalar q
  · refine .mapping q (by decide) (by decide) (by decide) fun e he q => ?_
    obtain rfl | rfl : e = _ ∨ e = _ := by simpa using he
    · exact plain_fieldTarget q
    · exact .aliasNode rfl (plain_fieldTarget q)

/-- An alias for a target with fields is read like these fields. -/
theorem ofDocument_copied_twins :
    (ofDocument (utf8 "dada.yml") (twins fieldTarget)).mapError ManifestError.kind
        = (ofDocument (utf8 "dada.yml") ((twins fieldTarget).copied (pair fieldTarget fieldTarget))).mapError
          ManifestError.kind
      ∧ (ofDocument (utf8 "dada.yml") (twins fieldTarget)).isOk = true :=
  ⟨ofDocument_copied _ (copies_twins rfl fun _ => .of_entries (.cons ⟨.scalar, .scalar⟩ .nil))
    plain_twins_fieldTarget (by decide +kernel), by decide +kernel⟩

/-! ### Aliases for programs -/

/-- **A target that is an alias for a program is never read**, though the program itself always is. -/
theorem read_alias_program (name : Text) {s : DecodeState} {line line' number target : Nat}
    {anchor tag value : Text} (hlookup : s.anchored.lookup target = some (.scalar line tag value))
    (htype : Tag.resolve? tag value ≠ some Tag.null) (t : TargetFields) (s' : DecodeState) :
    (TargetFields.read name (.aliasNode line' anchor number target)).run s ≠ .ok (t, s') := by
  have hread : Notes (TargetFields.record.read {} (.aliasNode line' anchor number target))
      { anchored := s.anchored, depth := s.depth, limit := s.limit } :=
    MappingType.notes_read_alias_scalar rfl hlookup htype
  exact run_within_ne_ok hread.bind_pure t s'

/-- So aliases for programs are not transparent. -/
theorem ofDocument_alias_program :
    (ofText (utf8 "dada.yml")
        (utf8 "\x7bname: d, targets: \x7bone: &t main.dada, two: *t\x7d\x7d")).isOk = false
      ∧ (ofText (utf8 "dada.yml")
        (utf8 "\x7bname: d, targets: \x7bone: main.dada, two: main.dada\x7d\x7d")).isOk = true
      ∧ ¬ ∀ (path : Text) (d : Document) (root : Node), Copies d.anchored [] d.root root →
        ofDocument path d = ofDocument path d unlimited →
        (ofDocument path d).mapError ManifestError.kind
          = (ofDocument path (d.copied root)).mapError ManifestError.kind := by
  refine ⟨by decide +kernel, by decide +kernel, fun h => ?_⟩
  have htwins := h (utf8 "dada.yml") (twins (.scalar 1 Tag.str (utf8 "main.dada"))) _
    (copies_twins rfl fun _ => .scalar) (by decide +kernel)
  exact absurd htwins (by decide +kernel)

end Manifest

end LessonLang
