import LessonLang.Table
import LessonLang.Value

/-!
Scopes, where variables live.

* `Scopes` is a stack of tables that always holds the global one.
* Names are bound in the innermost table only and looked up from the innermost outward.
* `Scopes.push` and `Scopes.pop?` open and close a scope; the global scope is never closed.
-/

namespace LessonLang

/-- A stack of scopes: the innermost one, and those around it from the inside out. -/
structure Scopes where
  inner : Table Value
  outer : List (Table Value)
  deriving Inhabited

namespace Scopes

/-- The empty global scope alone. -/
def empty : Scopes := ⟨[], []⟩

/-- The number of open scopes. -/
def depth (s : Scopes) : Nat := s.outer.length + 1

/-- Opens a scope that holds the given bindings. -/
def push (s : Scopes) (bindings : Table Value) : Scopes := ⟨bindings, s.inner :: s.outer⟩

/-- Closes the innermost scope, unless it is the global one. -/
def pop? (s : Scopes) : Option Scopes :=
  match s.outer with
  | [] => none
  | t :: rest => some ⟨t, rest⟩

/-- Binds a name in the innermost scope. -/
def define (s : Scopes) (name : Text) (value : Value) : Scopes :=
  { s with inner := s.inner.set name value }

/-- The value of a name in the innermost scope that binds it. -/
def lookup? (s : Scopes) (name : Text) : Option Value :=
  (s.inner :: s.outer).findSome? fun t => t.get? name

/-- The names bound in the innermost scope, in increasing order. -/
def keys (s : Scopes) : List Text := s.inner.keys

/-- The message for an attempt to close the global scope. -/
def popMessage : Text := utf8 "cannot pop the global scope"

end Scopes

end LessonLang
