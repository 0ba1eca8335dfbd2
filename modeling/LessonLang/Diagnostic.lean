import LessonLang.Tree.Parse
import LessonLang.Machine.Failure

/-!
What the user is told when a program cannot be read or run.

* `Diagnostic` is everything that can go wrong with a source file, from reading it to running it.
* `Diagnostic.described` is the line that is shown: the stage that failed, and its message.
-/

namespace LessonLang

/-- What went wrong with a program. `source` may name the file that the program was read from. -/
inductive Diagnostic where
  | source (file : Option Text) (e : SourceError)
  | run (f : Failure)
  | other (message : Text)

namespace Diagnostic

/-- The message without the stage. -/
def message : Diagnostic → Text
  | source (some file) e => file ++ 0x3a :: e.message
  | source none e => e.message
  | run f => f.message
  | other m => m

/-- The line that is shown. A runtime error does not know its file, so `path` is put in front if both
the path and the place of the error are known. -/
def described (path : Text) (d : Diagnostic) : Text :=
  match d with
  | source _ (.lex _) => utf8 "lex error: " ++ d.message
  | source _ (.parse _) => utf8 "parse error: " ++ d.message
  | run (.runtime e) =>
    if !path.isEmpty && 0 < e.place.line then utf8 "runtime error: " ++ path ++ 0x3a :: e.message
    else utf8 "runtime error: " ++ e.message
  | _ => utf8 "error: " ++ d.message

end Diagnostic

end LessonLang
