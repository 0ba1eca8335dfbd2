import LessonLang.Decimal.Numeral
import LessonLang.Text.Quoted

/-!
JSON documents and their text.

* `Json` is a document; the fields of an object keep their order.
* `Json.encode` writes it, on one line or with indentation. The only document without a text is one
  that holds a number that is not finite, and the first such number is the error.

Strings are written so that the text may stand inside a web page: the three markup characters and the
two line separators are escaped.
-/

namespace LessonLang

/-- A JSON document. -/
inductive Json where
  | null
  | bool (b : Bool)
  | int (n : Int)
  | number (x : Float)
  | string (t : Text)
  | array (items : List Json)
  | object (fields : List (String × Json))

namespace Json

/-- Numbers are positional from a millionth up to below `10^21`; exponents carry no leading zero
below zero. -/
def layout : Layout := ⟨-6, 20, false⟩

/-- A finite number. -/
def numberText (x : Float) : Text :=
  let (negative, bits) := splitSign x
  let ds := layout.write (Decimal.shortest bits)
  if negative then 0x2d :: ds else ds

/-- The name of a number that JSON cannot express. -/
def unsupportedName (x : Float) : Text :=
  let (negative, bits) := splitSign x
  if infinityBits < bits then utf8 "NaN" else if negative then utf8 "-Inf" else utf8 "+Inf"

/-- One character of a string. -/
def charText (c : Char) : Text :=
  if c == '"' || c == '\\' then [0x5c, Text.byte c]
  else match [('\x08', 'b'), ('\x0c', 'f'), ('\n', 'n'), ('\r', 'r'), ('\t', 't')].lookup c with
    | some letter => [0x5c, Text.byte letter]
    | none =>
      if c.toNat < 0x20 || c == '<' || c == '>' || c == '&' || c == '\u2028' || c == '\u2029' then
        utf8 "\\u" ++ hexDigits 4 c.toNat
      else String.utf8EncodeChar c

/-- A string between quotation marks. A stray byte is written as the replacement character, by the three
bytes of that character and not by its number. -/
def stringText (t : Text) : Text :=
  let inner := t.pieces.flatMap fun
    | .char c => charText c
    | .stray _ => String.utf8EncodeChar '\ufffd'
  0x22 :: inner ++ [0x22]

/-- A line break and the indentation of depth `depth`, or nothing on one line. -/
def newline (step : Option Nat) (depth : Nat) : Text :=
  match step with
  | none => []
  | some n => 0x0a :: List.replicate (n * depth) 0x20

mutual

/-- The text of a document at depth `depth`, indented by `step` spaces per level, or on one line. -/
def write (step : Option Nat) (depth : Nat) : Json → Text
  | null => utf8 "null"
  | bool b => if b then utf8 "true" else utf8 "false"
  | int n => Text.ofInt n
  | number x => numberText x
  | string t => stringText t
  | array [] => utf8 "[]"
  | array items =>
    0x5b :: writeItems step (depth + 1) true items ++ newline step depth ++ [0x5d]
  | object [] => [0x7b, 0x7d]
  | object fields =>
    0x7b :: writeFields step (depth + 1) true fields ++ newline step depth ++ [0x7d]

/-- The items of an array, each on a line of its own. -/
def writeItems (step : Option Nat) (depth : Nat) (first : Bool) : List Json → Text
  | [] => []
  | j :: rest =>
    (if first then [] else [0x2c]) ++ newline step depth ++ write step depth j
      ++ writeItems step depth false rest

/-- The fields of an object, each on a line of its own. -/
def writeFields (step : Option Nat) (depth : Nat) (first : Bool) : List (String × Json) → Text
  | [] => []
  | (name, j) :: rest =>
    (if first then [] else [0x2c]) ++ newline step depth ++ stringText (utf8 name)
      ++ (if step.isNone then [0x3a] else [0x3a, 0x20]) ++ write step depth j
      ++ writeFields step depth false rest

end

mutual

/-- The first number in a document that is not finite. -/
def unsupported? : Json → Option Float
  | number x => if (splitSign x).2 < infinityBits then none else some x
  | array items => unsupportedItem? items
  | object fields => unsupportedField? fields
  | _ => none

/-- The first number in a list of documents that is not finite. -/
def unsupportedItem? : List Json → Option Float
  | [] => none
  | j :: rest => (unsupported? j).or (unsupportedItem? rest)

/-- The first number in a list of fields that is not finite. -/
def unsupportedField? : List (String × Json) → Option Float
  | [] => none
  | (_, j) :: rest => (unsupported? j).or (unsupportedField? rest)

end

/-- The text of a document, or the number that has none. -/
def encode (step : Option Nat) (j : Json) : Except Float Text :=
  match unsupported? j with
  | some x => .error x
  | none => .ok (write step 0 j)

/-- The message for a document without a text. -/
def encodeMessage (x : Float) : Text := utf8 "json: unsupported value: " ++ unsupportedName x

end Json

end LessonLang
