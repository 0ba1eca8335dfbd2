import LessonLang.Tree
import LessonLang.Scopes

/-!
How a run can fail.

* `Cause` says why an operation of the program cannot be carried out, and `RuntimeError` adds the
  place of the node at fault.
* `Failure` is the way a whole run ends early: a runtime error, the cancellation of the run, or an
  answer that never came.
-/

namespace LessonLang

/-- Why a node cannot be carried out. -/
inductive Cause where
  | noProgram
  | missingStatement
  | missingExpression
  | missingDeclaration
  | unknownVariable (name : Text)
  | unknownFunction (name : Text)
  | notANumber (operand : Text)
  | divisionByZero
  | depthExceeded (name : Text)
  | unknownOperator (operator : Text)
  deriving DecidableEq, Repr

namespace Cause

/-- The cause in words. -/
def reason : Cause → Text
  | noProgram => utf8 "invalid program: nil tree"
  | missingStatement => utf8 "unsupported node: nil statement"
  | missingExpression => utf8 "unsupported node: nil expression"
  | missingDeclaration => utf8 "unsupported node: nil declaration"
  | unknownVariable _ => utf8 "unknown variable"
  | unknownFunction _ => utf8 "unknown function"
  | notANumber _ => utf8 "not a number"
  | divisionByZero => utf8 "division by zero"
  | depthExceeded _ => utf8 "call depth exceeded"
  | unknownOperator _ => utf8 "unsupported operator"

/-- The name or value that the cause is about, empty if there is none. -/
def subject : Cause → Text
  | unknownVariable t | unknownFunction t | notANumber t | depthExceeded t | unknownOperator t => t
  | _ => []

end Cause

/-- A cause and the place of the node at fault. -/
structure RuntimeError where
  cause : Cause
  place : Place
  deriving DecidableEq, Repr

namespace RuntimeError

/-- The message for a runtime error. The place is shown if it was set. -/
def message (e : RuntimeError) : Text :=
  let place :=
    if 0 < e.place.line then
      Text.ofInt e.place.line ++ 0x3a :: Text.ofInt e.place.column ++ utf8 ": "
    else []
  let subject := if e.cause.subject.isEmpty then [] else 0x20 :: e.cause.subject.quoted
  place ++ e.cause.reason ++ subject

end RuntimeError

/-- Why a prompt got no answer: the run was cancelled, or the host reported a problem of its own. -/
inductive InputFault where
  | canceled
  | host (message : Text)
  deriving DecidableEq, Repr

/-- How a run ends early. -/
inductive Failure where
  | runtime (e : RuntimeError)
  | canceled
  | input (name : Text) (fault : InputFault)
  | globalScope
  deriving DecidableEq, Repr

/-- The wording of a cancellation. -/
def canceledMessage : Text := utf8 "context canceled"

namespace Failure

/-- The message for a failed run. -/
def message : Failure → Text
  | runtime e => e.message
  | canceled => canceledMessage
  | input name .canceled => utf8 "input for " ++ name ++ utf8 ": " ++ canceledMessage
  | input name (.host m) => utf8 "input for " ++ name ++ utf8 ": " ++ m
  | globalScope => Scopes.popMessage

/-- The failure goes back to a cancellation. -/
def isCanceled : Failure → Bool
  | canceled | input _ .canceled => true
  | _ => false

/-- The failure of a node at the given place. -/
def ofNode (cause : Cause) (span : Span) : Failure := runtime ⟨cause, span.getD Place.unset⟩

end Failure

end LessonLang
