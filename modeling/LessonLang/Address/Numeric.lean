import LessonLang.Text.Quoted

/-!
Numeric addresses of machines.

* `readNumeric` reads an address in its long form, eight fields of hexadecimal digits between colons,
  or in its short form, four decimal numbers between dots. In the long form two colons may stand for
  fields of zeros, the last two fields may be written in the short form, and a zone may follow.
* `NumericIssue` is a reason why a text is no such address, with the part where it shows.
-/

namespace LessonLang

/-- What can be wrong with a numeric address. -/
inductive NumericIssueKind where
  | noNumber | noAddress | emptyZone
  | leadingZero | tooGreat | noDigit | tooManyNumbers | tooFewNumbers | badCharacter
  | longField | emptyField | misplacedNumbers | noRoom | noColon | lastColon | secondGap
  | trailing | tooFewFields | emptyGap
  deriving DecidableEq, Repr

/-- The kind of issue in words. -/
def NumericIssueKind.words : NumericIssueKind → String
  | noNumber => "unable to parse IP"
  | noAddress => "missing IPv6 address"
  | emptyZone => "zone must be a non-empty string"
  | leadingZero => "IPv4 field has octet with leading zero"
  | tooGreat => "IPv4 field has value >255"
  | noDigit => "IPv4 field must have at least one digit"
  | tooManyNumbers => "IPv4 address too long"
  | tooFewNumbers => "IPv4 address too short"
  | badCharacter => "unexpected character"
  | longField => "each group must have 4 or less digits"
  | emptyField => "each colon-separated field must have at least one digit"
  | misplacedNumbers => "embedded IPv4 address must replace the final 2 fields of the address"
  | noRoom => "too many hex fields to fit an embedded IPv4 at the end of the address"
  | noColon => "unexpected character, want colon"
  | lastColon => "colon must be followed by more characters"
  | secondGap => "multiple :: in address"
  | trailing => "trailing garbage after address"
  | tooFewFields => "address string too short"
  | emptyGap => "the :: must expand to at least one field of zeros"

/-- Something wrong with a numeric address, and the part where it shows, if it does. -/
structure NumericIssue where
  kind : NumericIssueKind
  part : Text := []
  deriving DecidableEq, Repr

/-- The issue with the address `whole` in words. -/
def NumericIssue.message (whole : Text) (i : NumericIssue) : Text :=
  let shown := utf8 "ParseAddr(" ++ whole.quoted ++ utf8 "): " ++ utf8 i.kind.words
  if i.part.isEmpty then shown else shown ++ utf8 " (at " ++ i.part.quoted ++ utf8 ")"

/-- The forms of numeric addresses. -/
inductive NumericForm where
  | short | long
  deriving DecidableEq, Repr

namespace NumericForm

/-- Reads numbers between dots. `numbers` are complete, and the current one has the value `value` and
`digits` digits so far; `after` says that a dot is in front. -/
def readNumbers (numbers value digits : Nat) (after : Bool) : Text → Except NumericIssue Unit
  | [] => if numbers < 3 then .error { kind := .tooFewNumbers } else .ok ()
  | b :: rest =>
    if isDigit b then
      let next := 10 * value + (b.toNat - 0x30)
      if digits == 1 && value == 0 then .error { kind := .leadingZero }
      else if 255 < next then .error { kind := .tooGreat }
      else readNumbers numbers next (digits + 1) false rest
    else if b == 0x2e then
      if after || rest.isEmpty then .error ⟨.noDigit, b :: rest⟩
      else if numbers == 3 then .error { kind := .tooManyNumbers }
      else readNumbers (numbers + 1) 0 0 true rest
    else .error ⟨.badCharacter, b :: rest⟩

/-- Checks that all fields are there when `room` of them are left; a gap stands for at least one. -/
def checkFields (room : Nat) (gap : Bool) : Except NumericIssue Unit :=
  if room == 0 then if gap then .error { kind := .emptyGap } else .ok ()
  else if gap then .ok ()
  else .error { kind := .tooFewFields }

/-- Reads fields between colons, of which `room` are left. -/
def readFields : (room : Nat) → (gap : Bool) → Text → Except NumericIssue Unit
  | 0, _, t => .error ⟨.trailing, t⟩
  | room + 1, gap, t =>
    let digits := t.takeWhile fun b => (hexValue? b).isSome
    let rest := t.drop digits.length
    if 4 < digits.length then .error ⟨.longField, t⟩
    else if digits.isEmpty then .error ⟨.emptyField, t⟩
    else if rest.head? == some 0x2e then
      if !gap && room != 1 then .error ⟨.misplacedNumbers, t⟩
      else if room == 0 then .error ⟨.noRoom, t⟩
      else match readNumbers 0 0 0 true t with
        | .ok () => checkFields (room - 1) gap
        | .error i => .error i
    else match rest with
      | [] => checkFields room gap
      | [b] => .error ⟨if b == 0x3a then .lastColon else .noColon, rest⟩
      | 0x3a :: 0x3a :: after =>
        if gap then .error ⟨.secondGap, 0x3a :: after⟩
        else if after.isEmpty then checkFields room true
        else readFields room true after
      | 0x3a :: after => readFields room gap after
      | _ => .error ⟨.noColon, rest⟩

/-- Reads the long form. -/
def readLong (t : Text) : Except NumericIssue Unit :=
  let (fields, zone) := t.cut 0x25
  if zone == some [] then .error { kind := .emptyZone }
  else match fields with
    | [0x3a, 0x3a] => .ok ()
    | 0x3a :: 0x3a :: rest => readFields 8 true rest
    | fields => readFields 8 false fields

end NumericForm

/-- Reads a numeric address. The first dot, colon or percent sign shows its form. -/
def readNumeric (t : Text) : Except NumericIssue NumericForm :=
  match t.find? fun b => b == 0x2e || b == 0x3a || b == 0x25 with
  | some 0x2e => (NumericForm.readNumbers 0 0 0 true t).map fun _ => .short
  | some 0x3a => (NumericForm.readLong t).map fun _ => .long
  | some _ => .error { kind := .noAddress }
  | none => .error { kind := .noNumber }

end LessonLang
