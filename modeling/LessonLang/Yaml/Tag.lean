import LessonLang.Calendar
import LessonLang.Decimal.Numeral

/-!
Tags, the types of YAML nodes.

* `Tag.natural` is the type that a plain scalar has by its spelling: nothing, a truth value, an
  integer, a float, a date or a text.
* `Tag.resolve?` is the type of a scalar for which a tag was given. It fails if the spelling does not
  fit the tag.
* `isTimestamp` and `isInteger` recognise the two spellings with more than one form.
-/

namespace LessonLang

namespace Yaml

namespace Tag

def null : Text := utf8 "!!null"
def bool : Text := utf8 "!!bool"
def str : Text := utf8 "!!str"
def int : Text := utf8 "!!int"
def float : Text := utf8 "!!float"
def timestamp : Text := utf8 "!!timestamp"
def seq : Text := utf8 "!!seq"
def map : Text := utf8 "!!map"
def binary : Text := utf8 "!!binary"
def merge : Text := utf8 "!!merge"

/-- What the tags of the standard start with. -/
def standardStem : Text := utf8 "tag:yaml.org,2002:"

/-- The short form of a tag of the standard. -/
def short (t : Text) : Text :=
  if t.startsWith standardStem then utf8 "!!" ++ t.drop standardStem.length else t

end Tag

/-! ### Dates -/

/-- Reads a number of one or two digits behind the byte `sep`. -/
def numberAfter? (sep : UInt8) : Text → Option (Nat × Text)
  | b :: rest => if b == sep then shortNumber? rest else none
  | [] => none

/-- Reads a date: a year of four digits, a month and a day that exist. -/
def date? (t : Text) : Option Text :=
  if (t.takeWhile isDigit).length != 4 then none
  else match numberAfter? 0x2d (t.drop 4) with
    | none => none
    | some (month, t') =>
      match numberAfter? 0x2d t' with
      | none => none
      | some (day, rest) =>
        if isDay (digitsValue (t.take 4)) month day then some rest else none

/-- Reads hours, minutes and seconds, with an optional fraction. -/
def clock? (t : Text) : Option Text :=
  match shortNumber? t with
  | none => none
  | some (hour, t) =>
    match numberAfter? 0x3a t with
    | none => none
    | some (minute, t) =>
      match numberAfter? 0x3a t with
      | none => none
      | some (second, t) =>
        if isTime hour minute second then some (skipFraction t) else none

/-- A time zone: the letter Z, or an offset in hours and minutes. -/
def isZone : Text → Bool
  | [0x5a] => true
  | [sign, a, b, colon, c, d] =>
    (sign == 0x2b || sign == 0x2d) && colon == 0x3a && [a, b, c, d].all isDigit
      && digitsValue [a, b] ≤ 24 && digitsValue [c, d] ≤ 60
  | _ => false

/-- A date, a date and a time of day, or a date and a time with a zone. -/
def isTimestamp (t : Text) : Bool :=
  match date? t with
  | none => false
  | some [] => true
  | some (b :: rest) =>
    if b == 0x54 || b == 0x74 then (clock? rest).any isZone
    else if b == 0x20 then (clock? (rest.dropWhile (· == 0x20))).any List.isEmpty
    else false

/-! ### Numbers -/

/-- The value of digits of a base. -/
def valueInBase? (base : Nat) (ds : Text) : Option Nat :=
  ds.foldl (fun n b =>
    match n, hexValue? b with
    | some n, some d => if d < base then some (base * n + d) else none
    | _, _ => none) (some 0)

/-- The base that the start of a number shows, and the digits behind it. -/
def baseOf : Text → Nat × Text
  | 0x30 :: x :: d :: rest =>
    if x == 0x62 || x == 0x42 then (2, d :: rest)
    else if x == 0x6f || x == 0x4f then (8, d :: rest)
    else if x == 0x78 || x == 0x58 then (16, d :: rest)
    else (8, x :: d :: rest)
  | 0x30 :: rest => (8, rest)
  | t => (10, t)

/-- The value of an unsigned number in the base that it shows. -/
def unsigned? (t : Text) : Option Nat :=
  if t.isEmpty then none else valueInBase? (baseOf t).1 (baseOf t).2

/-- A magnitude that an integer of 64 bits with the given sign can have. -/
def fits (negative : Bool) (n : Nat) : Bool := if negative then n ≤ Nat.pow 2 63 else n < Nat.pow 2 63

/-- A binary or octal number whose sign stands behind the letter for the base. -/
def isLateSigned (t : Text) : Bool :=
  let digits (base : Nat) (t : Text) : Bool :=
    let (negative, ds) := Numeral.takeSign t
    !ds.isEmpty && (valueInBase? base ds).any (fits negative)
  match t with
  | 0x30 :: 0x62 :: rest => digits 2 rest
  | 0x30 :: 0x6f :: rest => digits 8 rest
  | _ => false

/-- A signed integer of 64 bits. -/
def isSigned (t : Text) : Bool :=
  let (negative, ds) := Numeral.takeSign t
  (unsigned? ds).any (fits negative)

/-- An integer of 64 bits, signed or unsigned. -/
def isInteger (t : Text) : Bool := isSigned t || (unsigned? t).any (· < Nat.pow 2 64)

/-- A decimal number that is not too large. -/
def isDecimal (t : Text) : Bool := ((Numeral.read? t).bind Numeral.toFinite?).isSome

/-- Low lines stand between digits only. -/
def lowLinesBetweenDigits : (afterDigit : Bool) → Text → Bool
  | _, [] => true
  | afterDigit, b :: rest =>
    if b == 0x5f then afterDigit && rest.head?.any isDigit && lowLinesBetweenDigits false rest
    else lowLinesBetweenDigits (isDigit b) rest

/-! ### Types of scalars -/

namespace Tag

/-- The spellings that have a type of their own. -/
def words : List (String × Text) :=
  [("true", bool), ("True", bool), ("TRUE", bool), ("false", bool), ("False", bool),
   ("FALSE", bool), ("", null), ("~", null), ("null", null), ("Null", null), ("NULL", null),
   (".nan", float), (".NaN", float), (".NAN", float), (".inf", float), (".Inf", float),
   (".INF", float), ("+.inf", float), ("+.Inf", float), ("+.INF", float), ("-.inf", float),
   ("-.Inf", float), ("-.INF", float)]

/-- The type of a word. -/
def ofWord? (t : Text) : Option Text := (words.find? fun w => utf8 w.1 == t).map (·.2)

/-- The type of a scalar that starts like a number. Low lines in it do not count. -/
def ofNumber (dates : Bool) (t : Text) : Text :=
  let digits := t.filter (· != 0x5f)
  if dates && isTimestamp t then timestamp
  else if isInteger digits then int
  else if isDecimal digits then float
  else if isLateSigned digits then int
  else str

/-- The type that a plain scalar has by its spelling. Dates count if `dates` is set. -/
def naturalWith (dates : Bool) (t : Text) : Text :=
  match ofWord? t with
  | some tag => tag
  | none =>
    match t with
    | [] => null
    | b :: _ =>
      if isDigit b || b == 0x2b || b == 0x2d then ofNumber dates t
      else if b == 0x2e && lowLinesBetweenDigits false t && isDecimal (t.filter (· != 0x5f)) then
        float
      else str

/-- The type that a plain scalar has by its spelling. -/
def natural (t : Text) : Text := naturalWith true t

/-- The tags that say how a scalar is spelled. -/
def checked : List Text := [bool, int, float, null, timestamp]

/-- The integer is no larger than a signed one of 64 bits can be. -/
def isModest (t : Text) : Bool :=
  let digits := t.filter (· != 0x5f)
  isSigned digits || isLateSigned digits

/-- The type of a scalar with a given tag, if its spelling fits. An integer may stand for a float,
unless it is very large. -/
def resolve? (tag value : Text) : Option Text :=
  if tag.isEmpty then some (natural value)
  else if checked.contains tag then
    let found := naturalWith (tag == timestamp) value
    if found == tag || (tag == float && found == int && isModest value) then some tag else none
  else some tag

end Tag

end Yaml

end LessonLang
