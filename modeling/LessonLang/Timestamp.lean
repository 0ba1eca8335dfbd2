import LessonLang.Text

/-!
Times as they are recorded.

`Timestamp.text` writes a number of seconds since the start of 1970 as a date and a time of day, both
without an offset from universal time.

The date is computed in years that start in March: then the day that leap years add is the last one of
its year, and the months before it have a regular pattern of lengths.
-/

namespace LessonLang

namespace Timestamp

/-- A number with at least the given count of digits. -/
def padded (width n : Nat) : Text :=
  let ds := Text.ofNat n
  List.replicate (width - ds.length) 0x30 ++ ds

/-- Year, month and day of a day that is counted from the start of 1970. Four hundred years are
146097 days, and the count is moved to the first of March of year zero. -/
def date (day : Nat) : Nat × Nat × Nat :=
  let day := day + 719468
  let era := day / 146097
  let inEra := day % 146097
  let year := (inEra - inEra / 1460 + inEra / 36524 - inEra / 146096) / 365
  let inYear := inEra - (365 * year + year / 4 - year / 100)
  let month := (5 * inYear + 2) / 153
  let dayOfMonth := inYear - (153 * month + 2) / 5 + 1
  if month < 10 then (era * 400 + year, month + 3, dayOfMonth)
  else (era * 400 + year + 1, month - 9, dayOfMonth)

/-- A time in seconds since the start of 1970. -/
def text (seconds : Nat) : Text :=
  let day := date (seconds / 86400)
  let time := seconds % 86400
  padded 4 day.1 ++ 0x2d :: padded 2 day.2.1 ++ 0x2d :: padded 2 day.2.2
    ++ 0x54 :: padded 2 (time / 3600) ++ 0x3a :: padded 2 (time % 3600 / 60)
    ++ 0x3a :: padded 2 (time % 60) ++ [0x5a]

end Timestamp

end LessonLang
