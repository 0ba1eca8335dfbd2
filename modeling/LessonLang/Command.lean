import LessonLang.Command.Fetch
import LessonLang.Command.Inspect

/-!
The command line.

`command` selects what to do by the first argument. An argument that is no command stands at the
beginning of what would follow the run command.
-/

namespace LessonLang

variable {m : Type → Type} [Monad m] [Shell m]

/-- The text that explains the command line. -/
def usage : Text :=
  utf8 ("Usage:\n"
    ++ "  dada run [target] [--input value]... [--max-depth n]\n"
    ++ "  dada run <file.dada> [--input value]... [--max-depth n]\n"
    ++ "  dada <file.dada>\n"
    ++ "  dada tokens <file.dada>\n"
    ++ "  dada ast <file.dada>\n"
    ++ "  dada fetch [lesson ...]\n"
    ++ "  dada --version\n")

/-- The words that ask for help. -/
def helpWords : List Text := [utf8 "--help", utf8 "-h", utf8 "help"]

/-- The words that ask for the version. -/
def versionWords : List Text := [utf8 "--version", utf8 "-V", utf8 "version"]

/-- Explains the command line. -/
def explain (code : ExitCode) : m ExitCode := do
  Shell.complain usage
  pure code

/-- Carries out a command line. Programs are given up after `fuel` steps. -/
def command (fuel : Nat) (args : List Text) : m ExitCode := do
  match args with
  | [] => explain 1
  | word :: rest =>
    if helpWords.contains word then explain 0
    else if versionWords.contains word then
      printLine toolVersion
      pure 0
    else if word == utf8 "run" then runCommand fuel rest
    else if word == utf8 "tokens" then tokensCommand rest
    else if word == utf8 "ast" then treeCommand rest
    else if word == utf8 "fetch" then fetchCommand rest
    else runCommand fuel args

end LessonLang
