import LessonLang.Machine.Failure

/-!
Binary operators on values.

* `Operator` lists the ten operators; `Operator.ofText?` reads their spellings.
* `Operator.apply` computes them. Addition joins texts as soon as one operand is a string; the other
  arithmetic and the comparisons work on numbers, except that two strings are compared as texts.
* `applyOperator` is the same for an operator as a tree spells it, which may be no operator at all.
-/

namespace LessonLang

/-- The four orderings. -/
inductive Ordered where
  | less | greater | lessEq | greaterEq
  deriving DecidableEq, Repr

/-- Whether an ordering holds of operands that compare as `o`. -/
def Ordered.holds : Ordered → Ordering → Bool
  | .less, o => o == .lt
  | .greater, o => o == .gt
  | .lessEq, o => o != .gt
  | .greaterEq, o => o != .lt

/-- The binary operators. -/
inductive Operator where
  | add | sub | mul | div
  | order (o : Ordered)
  | equal | notEqual
  deriving DecidableEq, Repr

namespace Operator

/-- The operators with their spellings. -/
def spellings : List (Text × Operator) :=
  [(utf8 "+", add), (utf8 "-", sub), (utf8 "*", mul), (utf8 "/", div), (utf8 "<", order .less),
   (utf8 ">", order .greater), (utf8 "<=", order .lessEq), (utf8 ">=", order .greaterEq),
   (utf8 "==", equal), (utf8 "!=", notEqual)]

/-- The operator with a given spelling. -/
def ofText? (t : Text) : Option Operator := spellings.lookup t

/-- The numbers that two operands count as; the left one is complained about first. -/
def operands (a b : Value) : Except Cause (Float × Float) :=
  match a.toNumber? with
  | none => .error (.notANumber a.shown)
  | some x =>
    match b.toNumber? with
    | none => .error (.notANumber b.shown)
    | some y => .ok (x, y)

/-- Arithmetic on the numbers that two operands count as. -/
def arithmetic (f : Float → Float → Float) (a b : Value) : Except Cause Value :=
  (operands a b).map fun (x, y) => .number (f x y)

/-- The order of two numbers. Numbers that are neither smaller nor greater than each other, not-a-number
among them, count as equal. -/
def compareNumbers (x y : Float) : Ordering :=
  if x < y then .lt else if y < x then .gt else .eq

/-- The order of two texts, byte by byte. -/
def compareTexts (s t : Text) : Ordering :=
  if s < t then .lt else if t < s then .gt else .eq

/-- The order of two operands: texts if both are strings, numbers otherwise. -/
def compareValues (a b : Value) : Except Cause Ordering :=
  match a, b with
  | .string s, .string t => .ok (compareTexts s t)
  | a, b => (operands a b).map fun (x, y) => compareNumbers x y

/-- A string. -/
def isString : Value → Bool
  | .string _ => true
  | _ => false

/-- The value of an operation. -/
def apply : Operator → Value → Value → Except Cause Value
  | add, a, b =>
    if isString a || isString b then .ok (.string (a.shown ++ b.shown))
    else arithmetic (· + ·) a b
  | sub, a, b => arithmetic (· - ·) a b
  | mul, a, b => arithmetic (· * ·) a b
  | div, a, b =>
    match operands a b with
    | .ok (x, y) => if y == 0 then .error .divisionByZero else .ok (.number (x / y))
    | .error c => .error c
  | order o, a, b => (compareValues a b).map fun c => .bool (o.holds c)
  | equal, a, b => .ok (.bool (a.looseEq b))
  | notEqual, a, b => .ok (.bool !(a.looseEq b))

end Operator

/-- The value of an operation whose operator is spelled `op`. -/
def applyOperator (op : Text) (a b : Value) : Except Cause Value :=
  match Operator.ofText? op with
  | some o => o.apply a b
  | none => .error (.unknownOperator op)

end LessonLang
