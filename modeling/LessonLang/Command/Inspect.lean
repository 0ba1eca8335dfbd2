import LessonLang.Command.Run
import LessonLang.Tree.Dump

/-!
Commands that show what a source file is made of.

* `tokensCommand` prints its tokens, one a line, each with its place.
* `treeCommand` prints its tree as an indented document.
-/

namespace LessonLang

variable {m : Type → Type} [Monad m] [Shell m]

/-- Calls an action with the one path among the arguments. -/
def withPath (name : String) (args : List Text) (action : Text → m ExitCode) : m ExitCode :=
  match args with
  | [path] => action path
  | _ => giveUp (utf8 "dada " ++ utf8 name ++ utf8 " expects exactly one source file")

/-- Prints lines. -/
def printLines : List Text → m Unit
  | [] => pure ()
  | line :: rest => do
    printLine line
    printLines rest

/-- The line that shows a token. -/
def Token.line (t : Token) : Text := t.pos.shown ++ 0x20 :: t.shown

/-- Prints the tokens of a source file. -/
def tokensCommand (args : List Text) : m ExitCode :=
  withPath "tokens" args fun path => do
    match ← readTokens path with
    | .error d => giveUpOn path d
    | .ok tokens =>
      printLines (tokens.map Token.line)
      pure 0

/-- Prints the tree of a source file. -/
def treeCommand (args : List Text) : m ExitCode :=
  withPath "ast" args fun path => do
    match ← readProgram path with
    | .error d => giveUpOn path d
    | .ok program =>
      match program.toJson.encode (some 2) with
      | .error x => giveUp (utf8 "encode ast: " ++ Json.encodeMessage x)
      | .ok text =>
        printLine text
        pure 0

end LessonLang
