import LessonLang.Text.Category.Letters
import LessonLang.Text.Category.Marks
import LessonLang.Text.Category.Numbers
import LessonLang.Text.Category.Punctuation
import LessonLang.Text.Category.Separators
import LessonLang.Text.Category.Symbols
import LessonLang.Text.Ranges

/-!
General categories of characters.

* `Category` has the categories of assigned characters. Their names are a capital letter for the kind
  and a small one within it.
* `Category.members` are the code points of several categories, in normal form.
* `isLetterCode` and `isNumberCode` look single code points up.
-/

namespace LessonLang

/-- A general category of characters. -/
inductive Category where
  | lu | ll | lt | lm | lo
  | mn | mc | me
  | nd | nl | no
  | pc | pd | ps | pe | pi | pf | po
  | sm | sc | sk | so
  | zs | zl | zp
  | cc | cf | cs | co
  deriving DecidableEq, Repr

namespace Category

/-- The code points of a category as runs. -/
def runs : Category → List (Nat × Nat × Nat)
  | lu => capitalLetters
  | ll => smallLetters
  | lt => titleLetters
  | lm => modifierLetters
  | lo => otherLetters
  | mn => nonspacingMarks
  | mc => spacingMarks
  | me => enclosingMarks
  | nd => decimalDigits
  | nl => letterNumbers
  | no => otherNumbers
  | pc => connectors
  | pd => dashes
  | ps => openingMarks
  | pe => closingMarks
  | pi => initialQuotes
  | pf => finalQuotes
  | po => otherPunctuation
  | sm => mathSymbols
  | sc => currencySymbols
  | sk => modifierSymbols
  | so => otherSymbols
  | zs => spaces
  | zl => lineSeparators
  | zp => paragraphSeparators
  | cc => controls
  | cf => formats
  | cs => surrogates
  | co => privateUse

def letters : List Category := [lu, ll, lt, lm, lo]
def marks : List Category := [mn, mc, me]
def numbers : List Category := [nd, nl, no]
def punctuation : List Category := [pc, pd, ps, pe, pi, pf, po]
def symbols : List Category := [sm, sc, sk, so]
def separators : List Category := [zs, zl, zp]
def invisible : List Category := [cc, cf, cs, co]

/-- All categories of assigned characters. -/
def all : List Category :=
  letters ++ marks ++ numbers ++ punctuation ++ symbols ++ separators ++ invisible

/-- The code points of several categories, in normal form. -/
def members (categories : List Category) : Ranges :=
  Ranges.normalize (categories.flatMap fun c => Ranges.ofRuns c.runs)

/-- The code points of a list of categories as a table. -/
def table (categories : List Category) : Array (Nat × Nat) := (members categories).toArray

end Category

/-- The letters of all scripts. -/
def letterTable : Array (Nat × Nat) := Category.table Category.letters

/-- The numbers of all scripts. -/
def numberTable : Array (Nat × Nat) := Category.table Category.numbers

/-- A letter of some script. -/
def isLetterCode (cp : Nat) : Bool := inRanges letterTable cp

/-- A number of some script. -/
def isNumberCode (cp : Nat) : Bool := inRanges numberTable cp

end LessonLang
