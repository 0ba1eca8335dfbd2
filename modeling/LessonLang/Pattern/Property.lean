import LessonLang.Text.Category
import LessonLang.Text.Script

/-!
Properties of characters that patterns can ask for by name.

* `propertyNames` has the general categories, each under a short and a long name, and `scripts` the
  scripts. Names are compared without regard to letter case, spaces, hyphens and low lines.
* `Property.members?` is the set of characters that have a property.
-/

namespace LessonLang

namespace Property

open Category in
/-- The names of the categories, and of those that belong together. -/
def propertyNames : List (List String × List Category) :=
  [(["L", "Letter"], letters), (["LC", "Cased_Letter"], [lu, ll, lt]),
   (["Lu", "Uppercase_Letter"], [lu]), (["Ll", "Lowercase_Letter"], [ll]),
   (["Lt", "Titlecase_Letter"], [lt]), (["Lm", "Modifier_Letter"], [lm]),
   (["Lo", "Other_Letter"], [lo]),
   (["M", "Mark", "Combining_Mark"], marks), (["Mn", "Nonspacing_Mark"], [mn]),
   (["Mc", "Spacing_Mark"], [mc]), (["Me", "Enclosing_Mark"], [me]),
   (["N", "Number"], numbers), (["Nd", "Decimal_Number", "digit"], [nd]),
   (["Nl", "Letter_Number"], [nl]), (["No", "Other_Number"], [no]),
   (["P", "Punctuation", "punct"], punctuation), (["Pc", "Connector_Punctuation"], [pc]),
   (["Pd", "Dash_Punctuation"], [pd]), (["Ps", "Open_Punctuation"], [ps]),
   (["Pe", "Close_Punctuation"], [pe]), (["Pi", "Initial_Punctuation"], [pi]),
   (["Pf", "Final_Punctuation"], [pf]), (["Po", "Other_Punctuation"], [po]),
   (["S", "Symbol"], symbols), (["Sm", "Math_Symbol"], [sm]), (["Sc", "Currency_Symbol"], [sc]),
   (["Sk", "Modifier_Symbol"], [sk]), (["So", "Other_Symbol"], [so]),
   (["Z", "Separator"], separators), (["Zs", "Space_Separator"], [zs]),
   (["Zl", "Line_Separator"], [zl]), (["Zp", "Paragraph_Separator"], [zp]),
   (["Cc", "Control", "cntrl"], [cc]), (["Cf", "Format"], [cf]), (["Cs", "Surrogate"], [cs]),
   (["Co", "Private_Use"], [co])]

/-- The code points that are assigned to characters. -/
def assigned : Ranges := Category.members Category.all

/-- The properties that are not unions of categories. -/
def otherProperties : List (List String × Ranges) :=
  [(["Any"], [(0, Ranges.greatest)]), (["ASCII"], [(0, 0x7f)]), (["Assigned"], assigned),
   (["Cn", "Unassigned"], assigned.complement),
   (["C", "Other"], Ranges.normalize (assigned.complement ++ Category.members Category.invisible))]

/-- A name as it is compared. -/
def canonical (name : List Char) : List Char :=
  (name.filter fun c => c != ' ' && c != '-' && c != '_').map Char.toLower

/-- All properties by the names that are compared. -/
def all : List (List Char × Ranges) :=
  let named (names : List String) (set : Ranges) := names.map fun n => (canonical n.toList, set)
  propertyNames.flatMap (fun (names, categories) => named names (Category.members categories))
    ++ otherProperties.flatMap (fun (names, set) => named names set)
    ++ scripts.map fun (name, set) => (canonical name.toList, set)

/-- The characters that have the property of this name. -/
def members? (name : List Char) : Option Ranges := all.lookup (canonical name)

end Property

end LessonLang
