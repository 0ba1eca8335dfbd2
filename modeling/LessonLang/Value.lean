import LessonLang.Decimal.Literal
import LessonLang.Text.Blank

/-!
Values that programs compute with.

* `Value` has numbers, strings, truth values and `undefined`. A host may also hand in `absent`, which
  no program makes and which passes for `undefined`.
* `Value.shown` is what printing shows; `numberShown` is the number format it uses.
* `Value.toNumber?` converts to a number: strings are read as decimal numerals.
* `Value.truthy` decides conditions and `Value.looseEq` decides equality across kinds.
-/

namespace LessonLang

/-- A value of the language. -/
inductive Value where
  | undefined
  | number (x : Float)
  | string (t : Text)
  | bool (b : Bool)
  | absent
  deriving Inhabited

/-! ### Numbers as text -/

/-- Whole numbers are positional below `10^21`. -/
def wholeLayout : Layout := ⟨-4, 20, true⟩

/-- Numbers with a fraction, and whole numbers from `10^21`, are positional from a ten-thousandth up
to below a million. -/
def fractionLayout : Layout := ⟨-4, 5, true⟩

/-- A number as programs print it: the shortest decimal that reads back as the number. -/
def numberShown (x : Float) : Text :=
  let (negative, bits) := splitSign x
  if infinityBits < bits then utf8 "NaN"
  else
    let magnitude :=
      if bits == infinityBits then utf8 "Infinity"
      else
        let d := Decimal.shortest bits
        if (Binary.ofBits bits).isWhole && d.power ≤ wholeLayout.most then wholeLayout.write d
        else fractionLayout.write d
    if negative then 0x2d :: magnitude else magnitude

namespace Value

/-- The kinds of values by number. -/
def kindNames : List String := ["undefined", "number", "string", "bool"]

/-- The name of the kind with number `n`. -/
def kindName (n : Int) : Text :=
  match n with
  | .ofNat k =>
    match kindNames[k]? with
    | some name => utf8 name
    | none => utf8 "unknown_kind_" ++ Text.ofInt n
  | _ => utf8 "unknown_kind_" ++ Text.ofInt n

/-- A value as printing shows it. -/
def shown : Value → Text
  | number x => numberShown x
  | string t => t
  | bool b => if b then utf8 "true" else utf8 "false"
  | undefined | absent => utf8 "undefined"

/-- The bytes that only literals in other notations have: underscores, the marks of hexadecimal
numbers, and letters of the names of infinity and not-a-number. -/
def otherNotation : Text := utf8 "_xXpPiInN"

/-- The number that a text spells: white space around it is ignored, the empty text is zero, and all
else must be a number literal without a byte of another notation. -/
def readNumber? (t : Text) : Option Float :=
  if t.trim.isEmpty then some 0
  else ((Literal.read? t.trim).bind Literal.toFloat?).filter fun x =>
    !x.isNaN && !t.trim.any otherNotation.contains

/-- The number a value counts as. -/
def toNumber? : Value → Option Float
  | number x => some x
  | bool b => some (if b then 1 else 0)
  | string t => readNumber? t
  | undefined | absent => none

/-- A value that selects a branch or keeps a loop running. -/
def truthy : Value → Bool
  | number x => x != 0 && !x.isNaN
  | string t => !t.isEmpty
  | bool b => b
  | undefined | absent => false

/-- Equality of the language: values of one kind compare directly, values of different kinds as
numbers, and `undefined` equals only itself. -/
def looseEq : Value → Value → Bool
  | undefined, b | absent, b => match b with
    | undefined | absent => true
    | _ => false
  | _, undefined | _, absent => false
  | number x, number y => x == y
  | string s, string t => s == t
  | bool p, bool q => p == q
  | a, b =>
    match a.toNumber?, b.toNumber? with
    | some x, some y => x == y
    | _, _ => false

end Value

end LessonLang
