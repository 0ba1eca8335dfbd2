import Mathlib.Tactic
import LessonLang.Command
import LessonLang.Proofs.Decimal.Rounding
import LessonLang.Proofs.Json.Finite
import LessonLang.Proofs.Project
import LessonLang.Proofs.Token.Tiling
import LessonLang.Proofs.Tree.Source

/-!
Which trees have a dump.

* `Token.infinite` lists the numbers among tokens that are not finite.
* `Program.Derives.infinite`: parsing neither adds such a number nor drops one, so those in the
  document of a program are those of its tokens, in their order.
* `Program.dumped_iff`: the tree of a source text is dumped exactly if every run of digits in the text
  stands for less than `tooLarge`.
-/

namespace LessonLang

/-! ### Numbers that are not finite -/

/-- A node has the numbers of its parts. -/
@[simp]
lemma Json.infinite_node (type : String) (span : Span) (parts : List (String × Json)) :
    (node type span parts).infinite = infiniteFields parts := by
  cases span <;> simp [node, infinite, infiniteFields]

namespace Token

/-- A number among tokens that is not finite. -/
def infinite (t : Token) : List Float :=
  if t.kind = .number ∧ t.number.isFinite = false then [t.number] else []

/-- Only numbers can be infinite. -/
lemma infinite_of_kind {t : Token} {k : Kind} (ht : t.kind = k) (hk : k ≠ .number) :
    t.infinite = [] :=
  if_neg fun h => hk (ht ▸ h.1)

lemma infinite_of_number {t : Token} (ht : t.kind = .number) :
    t.infinite = (Json.number t.number).infinite := by
  rw [infinite, Json.infinite]
  cases t.number.isFinite <;> simp [ht]

end Token

/-! ### From tokens to documents -/

namespace Expr

/-- The operators of an expression are no numbers. -/
lemma infinite_of_operator {levels : List (List Kind)} {t : Token}
    (hlevels : levels.flatten ⊆ Expr.levels.flatten) (ht : t.kind ∈ levels.flatten) :
    t.infinite = [] := by
  refine Token.infinite_of_kind rfl fun hk => ?_
  rw [hk] at ht
  exact absurd (hlevels ht) (by decide)

mutual

lemma Derives.infinite : ∀ {levels : List (List Kind)} {ts : List Token} {e : Expr},
    Derives levels ts e → levels.flatten ⊆ Expr.levels.flatten →
    e.toJson.infinite = ts.flatMap Token.infinite
  | _, _, _, .operand h, _ => h.infinite
  | _, _, _, .tighter h, hlevels => h.infinite fun k hk => hlevels (by simp [hk])
  | _, _, _, .binary hl hop hr, hlevels => by
    have hleft := hl.infinite hlevels
    have hright := hr.infinite fun k hk => hlevels (by simp [hk])
    have hops := infinite_of_operator hlevels (List.mem_flatten_of_mem List.mem_cons_self hop)
    simp [toJson, Json.infiniteFields, hleft, hright, hops]

lemma DerivesOperand.infinite : ∀ {ts : List Token} {e : Expr},
    DerivesOperand ts e → e.toJson.infinite = ts.flatMap Token.infinite
  | _, _, .negate hop h => by
    have hzero : (Json.number 0).infinite = [] := by decide +kernel
    simp [toJson, Json.infiniteFields, hzero, h.infinite,
      Token.infinite_of_kind hop]
  | _, _, .number ht => by
    simp [toJson, Json.infiniteFields, Token.infinite_of_number ht]
  | _, _, .string ht => by
    simp [toJson, Json.infiniteFields, Token.infinite_of_kind ht]
  | _, _, .identifier ht => by
    simp [toJson, Json.infiniteFields, Token.infinite_of_kind ht]
  | _, _, .call ht h => by
    simp [toJson, Json.infiniteFields, Token.infinite_of_kind ht, h.infinite]
  | _, _, .parens ho h hc => by
    simp [Token.infinite_of_kind ho, Token.infinite_of_kind hc, h.infinite fun _ hk => hk]

lemma DerivesArguments.infinite : ∀ {ts : List Token} {args : List Expr},
    DerivesArguments ts args →
    Json.infiniteItems (listToJson args) = ts.flatMap Token.infinite
  | _, _, .none ho hc => by
    simp [listToJson, Json.infiniteItems, Token.infinite_of_kind ho, Token.infinite_of_kind hc]
  | _, _, .some ho h hc => by
    simp [Token.infinite_of_kind ho, Token.infinite_of_kind hc, h.infinite]

lemma DerivesItems.infinite : ∀ {ts : List Token} {args : List Expr},
    DerivesItems ts args → Json.infiniteItems (listToJson args) = ts.flatMap Token.infinite
  | _, _, .last h => by
    simp [listToJson, Json.infiniteItems, h.infinite fun _ hk => hk]
  | _, _, .more h hc hmore => by
    simp [listToJson, Json.infiniteItems, h.infinite fun _ hk => hk, Token.infinite_of_kind hc,
      hmore.infinite]

end

/-- A condition holds the infinite numbers of its tokens. -/
lemma DerivesCondition.infinite {ts : List Token} {e : Expr} (h : DerivesCondition ts e) :
    e.toJson.infinite = ts.flatMap Token.infinite := by
  cases h with
  | mk ho h hc =>
      simp [Token.infinite_of_kind ho, Token.infinite_of_kind hc, h.infinite fun _ hk => hk]

end Expr

@[simp]
lemma Assignment.infinite_toJson (a : Assignment) : a.toJson.infinite = a.value.toJson.infinite := by
  simp [toJson, Json.infiniteFields]

lemma Assignment.Derives.infinite {head : Token} {declared : Bool} {ts : List Token}
    {a : Assignment} (h : Assignment.Derives head declared ts a) :
    a.value.toJson.infinite = ts.flatMap Token.infinite := by
  cases h with
  | mk hname heq h hsemi =>
      simp [Token.infinite_of_kind hname, Token.infinite_of_kind heq,
        Token.infinite_of_kind hsemi, h.infinite fun _ hk => hk]

/-- There are no numbers among parameter names. -/
lemma DerivesNames.infinite {ts : List Token} {names : List Text} (h : DerivesNames ts names) :
    ts.flatMap Token.infinite = [] := by
  induction h with
  | last ht => simp [Token.infinite_of_kind ht]
  | more ht hc _ ih => simp [Token.infinite_of_kind ht, Token.infinite_of_kind hc, ih]

lemma DerivesParams.infinite {ts : List Token} {names : List Text} (h : DerivesParams ts names) :
    ts.flatMap Token.infinite = [] := by
  cases h with
  | none ho hc => simp [Token.infinite_of_kind ho, Token.infinite_of_kind hc]
  | some ho h hc => simp [Token.infinite_of_kind ho, Token.infinite_of_kind hc, h.infinite]

lemma DerivesSemicolon.infinite {ts : List Token} (h : DerivesSemicolon ts) :
    ts.flatMap Token.infinite = [] := by
  cases h with
  | absent => rfl
  | present ht => simp [Token.infinite_of_kind ht]

/-- The three parts of the head of a counting loop. -/
lemma DerivesCount.infinite {ts : List Token} {init inc : Assignment} {c : Expr}
    (h : DerivesCount ts (init, c, inc)) :
    init.value.toJson.infinite ++ (c.toJson.infinite ++ inc.value.toJson.infinite)
      = ts.flatMap Token.infinite := by
  cases h with
  | mk ho hhead hinit hc hsemi hname heq hvalue hss hclose =>
      simp [hinit.infinite, hc.infinite fun _ hk => hk, hvalue.infinite fun _ hk => hk, hss.infinite,
        Token.infinite_of_kind ho, Token.infinite_of_kind hhead, Token.infinite_of_kind hsemi,
        Token.infinite_of_kind hname, Token.infinite_of_kind heq, Token.infinite_of_kind hclose]

namespace Stmt

/-- Names are no numbers. -/
lemma infiniteItems_names (names : List Text) :
    Json.infiniteItems (names.map Json.string) = [] := by
  induction names with
  | nil => rfl
  | cons name names ih => exact ih

mutual

lemma Derives.infinite : ∀ {ts : List Token} {st : Stmt},
    Derives ts st → st.toJson.infinite = ts.flatMap Token.infinite
  | _, _, .declare ht h => by simp [toJson, h.infinite, Token.infinite_of_kind ht]
  | _, _, .assign h => by simp [toJson, h.infinite]
  | _, _, .print ht h hsemi => by
    simp [toJson, Json.infiniteFields, h.infinite fun _ hk => hk, Token.infinite_of_kind ht,
      Token.infinite_of_kind hsemi]
  | _, _, .input ht hname hsemi => by
    simp [toJson, Json.infiniteFields, Token.infinite_of_kind ht, Token.infinite_of_kind hname,
      Token.infinite_of_kind hsemi]
  | _, _, .giveBack ht h hsemi => by
    simp [toJson, Json.infiniteFields, h.infinite fun _ hk => hk, Token.infinite_of_kind ht,
      Token.infinite_of_kind hsemi]
  | _, _, .call ht h hsemi => by
    simp [toJson, Json.infiniteFields, h.infinite, Token.infinite_of_kind ht,
      Token.infinite_of_kind hsemi]
  | _, _, .choose ht hcondition hbody hmore => by
    simp [toJson, Branch.listToJson, Branch.toJson, Json.infiniteFields, Json.infiniteItems,
      hcondition.infinite, hbody.infinite, hmore.infinite, Token.infinite_of_kind ht]
  | _, _, .loop ht hcondition hbody => by
    simp [toJson, Json.infiniteFields, hcondition.infinite, hbody.infinite,
      Token.infinite_of_kind ht]
  | _, _, .count ht hcount hbody => by
    simp [toJson, Json.infiniteFields, ← hcount.infinite, hbody.infinite,
      Token.infinite_of_kind ht]
  | _, _, .function ht hname hparams hbody => by
    simp [toJson, Json.infiniteFields, infiniteItems_names, hparams.infinite, hbody.infinite,
      Token.infinite_of_kind ht, Token.infinite_of_kind hname]

lemma DerivesBlock.infinite : ∀ {ts : List Token} {body : List Stmt},
    DerivesBlock ts body → Json.infiniteItems (listToJson body) = ts.flatMap Token.infinite
  | _, _, .mk ho h hc => by
    simp [h.infinite, Token.infinite_of_kind ho, Token.infinite_of_kind hc]

lemma DerivesMany.infinite : ∀ {ts : List Token} {body : List Stmt},
    DerivesMany ts body → Json.infiniteItems (listToJson body) = ts.flatMap Token.infinite
  | _, _, .none => rfl
  | _, _, .more h hmore => by
    simp [listToJson, Json.infiniteItems, h.infinite, hmore.infinite]

lemma DerivesBranches.infinite : ∀ {ts : List Token} {bs : List Branch},
    DerivesBranches ts bs →
    Json.infiniteItems (Branch.listToJson bs) = ts.flatMap Token.infinite
  | _, _, .none => rfl
  | _, _, .elseIf ht hcondition hbody hmore => by
    simp [Branch.listToJson, Branch.toJson, Json.infiniteFields, Json.infiniteItems,
      hcondition.infinite, hbody.infinite, hmore.infinite, Token.infinite_of_kind ht]
  | _, _, .otherwise ht hbody => by
    simp [Branch.listToJson, Branch.toJson, Expr.toJson, Json.infiniteFields, Json.infiniteItems,
      hbody.infinite, Token.infinite_of_kind ht]

end

end Stmt

/-- **The numbers of a program** that are not finite are those of its tokens. -/
lemma Program.Derives.infinite {ts : List Token} {p : Program} (h : Program.Derives ts p) :
    p.toJson.infinite = ts.flatMap Token.infinite := by
  cases h with
  | mk ho h hc =>
      simp [toJson, Json.infiniteFields, h.infinite, Token.infinite_of_kind ho,
        Token.infinite_of_kind hc]

/-! ### Numbers of source texts -/

/-- No numeral is read beyond infinity. -/
lemma Decimal.nearest_le_infinityBits (d : Decimal) : d.nearest ≤ infinityBits := by
  rw [nearest]
  split_ifs
  · exact Nat.zero_le _
  · exact le_rfl
  · exact Nat.zero_le _
  · dsimp only
    rw [nearestBits]
    split_ifs
    · exact Nat.zero_le _
    · exact min_le_right _ _

/-- **A run of digits** denotes a finite number exactly if it is not too large. -/
lemma isFinite_digitsNumber (ds : Text) :
    (digitsNumber ds).isFinite = true ↔ (digitsValue ds : ℚ) < tooLarge := by
  have hvalue : Decimal.toRat ⟨digitsValue ds, 0⟩ = digitsValue ds := by simp [Decimal.toRat]
  rw [← hvalue, ← Decimal.nearest_lt_infinityBits_iff, digitsNumber]
  refine ⟨fun h => ?_, isFinite_numberOf false⟩
  refine (Decimal.nearest_le_infinityBits _).lt_of_ne fun heq => ?_
  rw [heq] at h
  exact absurd h (by decide +kernel)

/-- A run of digits that is too large denotes infinity. -/
lemma digitsNumber_of_not_isFinite {ds : Text} (h : (digitsNumber ds).isFinite = false) :
    digitsNumber ds = numberOf false infinityBits := by
  have hle := Decimal.nearest_le_infinityBits ⟨digitsValue ds, 0⟩
  obtain hlt | heq := hle.lt_or_eq
  · exact absurd (isFinite_numberOf false hlt) (by rw [← digitsNumber, h]; exact Bool.false_ne_true)
  · rw [digitsNumber, heq]

/-- The number of a token is what its digits say. -/
lemma Token.number_ofLexeme {kind : Kind} {raw : Text} {pos : Pos} (hkind : kind = .number) :
    (ofLexeme kind raw pos).number = digitsNumber (ofLexeme kind raw pos).text := by
  subst hkind
  rfl

/-- So it is for all tokens of a source text. -/
lemma tokenizeFrom_number {pos : Pos} {src : Text} {ts : List Token}
    (h : tokenizeFrom pos src = .ok ts) :
    ∀ t ∈ ts, t.kind = .number → t.number = digitsNumber t.text := by
  obtain ⟨gap, rfl | ⟨b, rest, kind, behind, ts', hstart, -, hrest, rfl⟩⟩ := tokenizeFrom_ok h
  · intro t ht hkind
    obtain rfl := List.mem_singleton.mp ht
    exact absurd hkind (by simp [Token.eof])
  · have hlen : (rest.drop behind).length < src.length := by
      have := congrArg List.length hstart
      simp only [List.length_drop, List.length_cons] at *
      omega
    intro t ht hkind
    obtain rfl | ht := List.mem_cons.mp ht
    · exact Token.number_ofLexeme (by simpa using hkind)
    · exact tokenizeFrom_number hrest t ht hkind
termination_by src.length
decreasing_by exact hlen

namespace Token

/-- **A number beyond all finite ones**: a run of digits that rounds to none of them. -/
def IsTooLarge (t : Token) : Prop := t.kind = .number ∧ tooLarge ≤ (digitsValue t.text : ℚ)

/-- A token is finite unless it is a number that is too large. -/
lemma infinite_eq_nil_iff {t : Token} (h : t.kind = .number → t.number = digitsNumber t.text) :
    t.infinite = [] ↔ ¬t.IsTooLarge := by
  rw [infinite, IsTooLarge, ← not_lt]
  by_cases hkind : t.kind = .number
  · rw [← isFinite_digitsNumber, ← h hkind]
    simp [hkind]
  · simp [hkind]

/-- The only infinite number that digits spell is the positive one. -/
lemma eq_of_mem_infinite {t : Token} {x : Float}
    (h : t.kind = .number → t.number = digitsNumber t.text) (hx : x ∈ t.infinite) :
    x = numberOf false infinityBits := by
  rw [infinite] at hx
  split_ifs at hx with hkind
  · rw [List.mem_singleton.mp hx]
    rw [h hkind.1] at hkind ⊢
    exact digitsNumber_of_not_isFinite hkind.2
  · simp at hx

end Token

/-! ### Dumps -/

/-- A source text that is a program, by its tokens. -/
lemma Program.ofSource_eq_ok_iff {src : Text} {p : Program} :
    ofSource src = .ok p ↔ ∃ ts, tokenize src = .ok ts ∧ parse ts = .ok p := by
  rw [ofSource]
  cases tokenize src with
  | error e => simp
  | ok ts =>
      dsimp only
      cases hp : parse ts <;> simp [hp]

/-- The end of input is the last token of a source text. -/
lemma significant_of_tokenize {src : Text} {ts : List Token} (h : tokenize src = .ok ts) :
    ∃ e : Token, e.kind = .eof ∧ ts = Program.significant ts ++ [e] := by
  have htiles := tokenizeFrom_tiles src (show Pos.start.offset = (0 : Nat) from rfl)
  rw [← tokenize, h] at htiles
  obtain ⟨us, e, rfl, he, -, hus⟩ := htiles.last_eof
  refine ⟨e, he, congrArg (· ++ [e]) ?_⟩
  rw [Program.significant, List.takeWhile_append_of_pos fun t ht => by simpa using hus t ht]
  simp [he]

/-- **The numbers in the tree of a source text** that are not finite are those of its tokens. -/
lemma Program.infinite_of_source {src : Text} {ts : List Token} {p : Program}
    (hts : tokenize src = .ok ts) (hp : parse ts = .ok p) :
    p.toJson.infinite = ts.flatMap Token.infinite := by
  obtain ⟨e, he, heq⟩ := significant_of_tokenize hts
  calc p.toJson.infinite = (significant ts).flatMap Token.infinite := (derives_of_parse hp).infinite
    _ = (significant ts ++ [e]).flatMap Token.infinite := by simp [Token.infinite_of_kind he]
    _ = ts.flatMap Token.infinite := by rw [← heq]

namespace World

variable {w : World} {path src : Text} {ts : List Token} {p : Program}

/-- A file that can be read and parsed gives its program. -/
lemma perform_readProgram
    (hread : w.disk.read w.directory (Path.absolute w.directory path) = .ok src)
    (hts : tokenize src = .ok ts) (hp : Program.parse ts = .ok p) :
    w.perform (readProgram path) = (.ok p, w) := by
  have htokens : w.perform (readTokens path) = (.ok ts, w) := by
    rw [readTokens, perform_bind, perform_absolutePath, perform_bind, perform_read, hread]
    dsimp only
    rw [hts]
    rfl
  rw [readProgram, perform_bind, htokens]
  dsimp only
  rw [hp]
  rfl

/-- The command shows the dump of the program, or says why there is none. -/
lemma perform_treeCommand (hprogram : w.perform (readProgram path) = (.ok p, w)) :
    w.perform (treeCommand [path]) =
      match p.toJson.encode (some 2) with
      | .ok doc => (0, { w with printed := (doc ++ [0x0a]) :: w.printed })
      | .error x => (1, { w with
          complaints := (utf8 "encode ast: " ++ Json.encodeMessage x ++ [0x0a]) :: w.complaints }) := by
  rw [treeCommand, withPath, perform_bind, hprogram]
  dsimp only
  cases p.toJson.encode (some 2) <;> rfl

end World

/-- **Which programs are dumped.** The tree of a source text has a JSON document exactly if no number
of the text is too large for a finite one. Then the command prints it and succeeds; otherwise it fails
with a message that names infinity. -/
theorem Program.dumped_iff {src : Text} {p : Program} (h : ofSource src = .ok p) :
    ∃ ts, tokenize src = .ok ts
      ∧ (∀ step, (∃ doc, p.toJson.encode step = .ok doc) ↔ ∀ t ∈ ts, ¬t.IsTooLarge)
      ∧ (∀ step x, p.toJson.encode step = .error x →
          Json.encodeMessage x = utf8 "json: unsupported value: +Inf")
      ∧ ∀ (fuel : Nat) (w : World) (path : Text),
          w.disk.read w.directory (Path.absolute w.directory path) = .ok src →
          w.perform (command fuel [utf8 "ast", path]) =
            match p.toJson.encode (some 2) with
            | .ok doc => (0, { w with printed := (doc ++ [0x0a]) :: w.printed })
            | .error _ => (1, { w with
                complaints :=
                  utf8 "encode ast: json: unsupported value: +Inf\n" :: w.complaints }) := by
  obtain ⟨ts, hts, hp⟩ := ofSource_eq_ok_iff.mp h
  have hnumber := tokenizeFrom_number hts
  have hinfinite := infinite_of_source hts hp
  have hmessage : ∀ step x, p.toJson.encode step = .error x →
      Json.encodeMessage x = utf8 "json: unsupported value: +Inf" := by
    intro step x hx
    have hmem : x ∈ ts.flatMap Token.infinite :=
      hinfinite ▸ List.mem_of_head? (Json.head?_of_encode hx)
    obtain ⟨t, ht, hxt⟩ := List.mem_flatMap.mp hmem
    rw [Token.eq_of_mem_infinite (hnumber t ht) hxt]
    decide +kernel
  refine ⟨ts, hts, fun step => ?_, hmessage, fun fuel w path hread => ?_⟩
  · rw [Json.exists_encode_iff, hinfinite, List.flatMap_eq_nil_iff]
    exact forall₂_congr fun t ht => Token.infinite_eq_nil_iff (hnumber t ht)
  · have hcommand : w.perform (command fuel [utf8 "ast", path]) = w.perform (treeCommand [path]) := rfl
    rw [hcommand, World.perform_treeCommand (World.perform_readProgram hread hts hp)]
    cases hdoc : p.toJson.encode (some 2) with
    | ok doc => rfl
    | error x =>
        dsimp only
        rw [hmessage _ x hdoc]
        rfl

/-! ### Powers of ten -/

/-- A program that prints a power of ten. -/
def powerSource (n : Nat) : Text :=
  utf8 "nomoshkar dada\nbolo dada 1" ++ List.replicate n 0x30 ++ utf8 ";\njachchhi dada\n"

/-- A world with that program in a file. -/
def powerWorld (n : Nat) : World :=
  { disk.entries := [([utf8 "power.dada"], .file (powerSource n))] }

/-- The largest power of ten that is finite is dumped. -/
theorem Program.dumped_iff_power :
    ∃ p, ofSource (powerSource 308) = .ok p
      ∧ (∃ ts, tokenize (powerSource 308) = .ok ts ∧ ∀ t ∈ ts, ¬t.IsTooLarge)
      ∧ ∃ doc, p.toJson.encode (some 2) = .ok doc
        ∧ (powerWorld 308).disk.read (powerWorld 308).directory
            (Path.absolute (powerWorld 308).directory (utf8 "power.dada")) = .ok (powerSource 308)
        ∧ (powerWorld 308).perform (command 0 [utf8 "ast", utf8 "power.dada"])
            = (0, { powerWorld 308 with printed := [doc ++ [0x0a]] }) := by
  have hdump : (match ofSource (powerSource 308) with
      | .ok p => (p.toJson.encode (some 2)).isOk
      | .error _ => false) = true := by decide +kernel
  have hread : (powerWorld 308).disk.read (powerWorld 308).directory
      (Path.absolute (powerWorld 308).directory (utf8 "power.dada")) = .ok (powerSource 308) := by
    decide +kernel
  cases hp : ofSource (powerSource 308) with
  | error e => simp [hp] at hdump
  | ok p =>
      rw [hp] at hdump
      cases hdoc : p.toJson.encode (some 2) with
      | error x => simp [hdoc, Except.isOk, Except.toBool] at hdump
      | ok doc =>
          obtain ⟨ts, hts, hsmall, -, hperform⟩ := dumped_iff hp
          have hrun := hperform 0 (powerWorld 308) (utf8 "power.dada") hread
          rw [hdoc] at hrun
          exact ⟨p, rfl, ⟨ts, hts, (hsmall (some 2)).mp ⟨doc, hdoc⟩⟩, doc, hdoc, hread, hrun⟩

/-- **A number that is too large.** The next power of ten is a program, but it has no document, and the
command fails. -/
theorem Program.not_dumped_power :
    (∃ p, ofSource (powerSource 309) = .ok p ∧ ∀ step doc, p.toJson.encode step ≠ .ok doc)
      ∧ (powerWorld 309).disk.read (powerWorld 309).directory
          (Path.absolute (powerWorld 309).directory (utf8 "power.dada")) = .ok (powerSource 309)
      ∧ ((powerWorld 309).perform (command 0 [utf8 "ast", utf8 "power.dada"])).1 = 1 := by
  have hinfinite : (match ofSource (powerSource 309) with
      | .ok p => p.toJson.infinite.isEmpty
      | .error _ => true) = false := by decide +kernel
  refine ⟨?_, by decide +kernel, by decide +kernel⟩
  cases hp : ofSource (powerSource 309) with
  | error e => simp [hp] at hinfinite
  | ok p =>
      rw [hp] at hinfinite
      refine ⟨p, rfl, fun step doc hdoc => ?_⟩
      simp [Json.exists_encode_iff.mp ⟨doc, hdoc⟩] at hinfinite

end LessonLang
