import LessonLang.Text.Quoted

/-!
The arguments of the run command.

* `RunOptions` is what they ask for: a target or file, answers to prompts, and a bound on the nesting
  of calls.
* `RunOptions.parse` reads them from left to right. At the first argument that is wrong it stops, and
  gives the error together with what was read before.
-/

namespace LessonLang

/-- What the arguments of the run command ask for. -/
structure RunOptions where
  entry : Text := []
  inputs : List Text := []
  maxDepth : Option Nat := none
  deriving DecidableEq, Repr

/-- What is wrong with an argument. -/
inductive OptionError where
  | missingValue (flag : Text)
  | badDepth (value : Text)
  | unknownFlag (argument : Text)
  | unexpected (argument : Text)
  deriving DecidableEq, Repr

/-- The error in words. -/
def OptionError.message : OptionError → Text
  | missingValue flag => flag ++ utf8 " requires a value"
  | badDepth v => utf8 "--max-depth expects a positive integer (got " ++ v.quoted ++ utf8 ")"
  | unknownFlag a => utf8 "unknown flag " ++ a
  | unexpected a => utf8 "unexpected arguments: " ++ a

/-- The flag for an answer. -/
def inputFlag : Text := utf8 "--input"

/-- The flag for the bound on the nesting of calls. -/
def depthFlag : Text := utf8 "--max-depth"

/-- The part of an argument `flag=value` behind the sign of equality. -/
def flagValue? (flag argument : Text) : Option Text :=
  if argument.startsWith (flag ++ [0x3d]) then some (argument.drop (flag.length + 1)) else none

/-- A positive integer below `2^63`, in decimal digits with an optional sign. -/
def readDepth? (t : Text) : Option Nat :=
  let digits := match t with
    | 0x2b :: rest => rest
    | t => t
  if !digits.isEmpty && digits.all isDigit then
    let n := digitsValue digits
    if 0 < n && n < Nat.pow 2 63 then some n else none
  else none

namespace RunOptions

/-- Answers were given. -/
def hasInputs (o : RunOptions) : Bool := !o.inputs.isEmpty

/-- Adds an answer. -/
def addInput (o : RunOptions) (value : Text) : RunOptions := { o with inputs := o.inputs ++ [value] }

/-- What a single argument amounts to. -/
inductive Argument where
  | input (value : Text)
  /-- the value is the next argument -/
  | inputNext
  | depth (value : Text)
  /-- the value is the next argument -/
  | depthNext
  | otherFlag
  | positional
  deriving DecidableEq, Repr

/-- Classifies an argument. -/
def classify (a : Text) : Argument :=
  if a == inputFlag then .inputNext
  else match flagValue? inputFlag a with
    | some v => .input v
    | none =>
      if a == depthFlag then .depthNext
      else match flagValue? depthFlag a with
        | some v => .depth v
        | none => if a.startsWith (utf8 "--") then .otherFlag else .positional

/-- Reads arguments, after those that gave `o`. -/
def parseFrom (o : RunOptions) : List Text → RunOptions × Option OptionError
  | [] => (o, none)
  | a :: rest =>
    match classify a, rest with
    | .inputNext, [] => (o, some (.missingValue inputFlag))
    | .inputNext, v :: rest => parseFrom (o.addInput v) rest
    | .input v, rest => parseFrom (o.addInput v) rest
    | .depthNext, [] => (o, some (.missingValue depthFlag))
    | .depthNext, v :: rest =>
      match readDepth? v with
      | some n => parseFrom { o with maxDepth := some n } rest
      | none => (o, some (.badDepth v))
    | .depth v, rest =>
      match readDepth? v with
      | some n => parseFrom { o with maxDepth := some n } rest
      | none => (o, some (.badDepth v))
    | .otherFlag, _ => (o, some (.unknownFlag a))
    | .positional, rest =>
      if o.entry.isEmpty then parseFrom { o with entry := a } rest
      else (o, some (.unexpected a))

/-- Reads the arguments of the run command. -/
def parse (args : List Text) : RunOptions × Option OptionError := parseFrom {} args

end RunOptions

end LessonLang
