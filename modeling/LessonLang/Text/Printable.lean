import LessonLang.Text.Category

/-!
Printable characters.

The printable code points are those of the general categories letter, mark, number, punctuation and
symbol, together with the space. No other white space is printable.
-/

namespace LessonLang

/-- The printable code points apart from the space. -/
def printableTable : Array (Nat × Nat) :=
  Category.table (Category.letters ++ Category.marks ++ Category.numbers ++ Category.punctuation
    ++ Category.symbols)

/-- A character that is shown as itself inside quotation marks. -/
def isPrintable (cp : Nat) : Bool :=
  if cp < 0x7f then 0x20 ≤ cp else inRanges printableTable cp

end LessonLang
