import LessonLang.Text

/-!
Numbers in dates and times of day.

* `shortNumber?` and `fullNumber?` read the parts of a date: one or two digits, or exactly two.
* `daysIn` is the length of a month.
* `skipFraction` goes over the fraction of a second.
* `isInstant` recognises a date and a time of day in one fixed form.
-/

namespace LessonLang

/-- Reads a number of one or two digits. -/
def shortNumber? : Text → Option (Nat × Text)
  | a :: b :: rest =>
    if isDigit a then
      if isDigit b then some (digitsValue [a, b], rest) else some (digitsValue [a], b :: rest)
    else none
  | [a] => if isDigit a then some (digitsValue [a], []) else none
  | [] => none

/-- Reads a number of exactly two digits. -/
def fullNumber? : Text → Option (Nat × Text)
  | a :: b :: rest => if isDigit a && isDigit b then some (digitsValue [a, b], rest) else none
  | _ => none

/-- What follows the byte `b`, if that comes next. -/
def after? (b : UInt8) : Text → Option Text
  | c :: rest => if c == b then some rest else none
  | [] => none

/-- The number of days of a month. -/
def daysIn (year month : Nat) : Nat :=
  if month == 2 then
    if year % 4 == 0 && (year % 100 != 0 || year % 400 == 0) then 29 else 28
  else if month == 4 || month == 6 || month == 9 || month == 11 then 30
  else 31

/-- The month and the day exist in that year. -/
def isDay (year month day : Nat) : Bool :=
  1 ≤ month && month ≤ 12 && 1 ≤ day && day ≤ daysIn year month

/-- The hour, the minute and the second exist. -/
def isTime (hour minute second : Nat) : Bool := hour < 24 && minute < 60 && second < 60

/-- Goes over the fraction of a second. -/
def skipFraction : Text → Text
  | a :: b :: rest =>
    if (a == 0x2e || a == 0x2c) && isDigit b then rest.dropWhile isDigit else a :: b :: rest
  | t => t

/-- A date and a time of day with the letters T and Z, such as `2006-01-02T15:04:05Z`. Only the hour
may have a single digit. -/
def isInstant (t : Text) : Bool :=
  ((t.take 4).length == 4 && (t.take 4).all isDigit) &&
    (do
      let (month, t') ← fullNumber? (← after? 0x2d (t.drop 4))
      let (day, t') ← fullNumber? (← after? 0x2d t')
      let (hour, t') ← shortNumber? (← after? 0x54 t')
      let (minute, t') ← fullNumber? (← after? 0x3a t')
      let (second, t') ← fullNumber? (← after? 0x3a t')
      pure (isDay (digitsValue (t.take 4)) month day && isTime hour minute second
        && skipFraction t' == [0x5a])) == some true

end LessonLang
