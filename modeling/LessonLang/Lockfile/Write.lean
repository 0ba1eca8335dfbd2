import LessonLang.Lockfile
import LessonLang.Yaml.Write

/-!
The text of a lockfile.

`Lockfile.toText` writes the four fields of a lockfile in a fixed order and its entries as a list, in
the order in which they are. `Lockfile.ofText` reads it back.
-/

namespace LessonLang

open Yaml

/-- The lines of an entry. -/
def LockedLesson.toText (l : LockedLesson) : Text :=
  utf8 "  - " ++ writeField 6 "name" l.name ++ utf8 "    " ++ writeField 6 "version" l.version
    ++ utf8 "    " ++ writeField 6 "source" l.source ++ utf8 "    "
    ++ writeField 6 "checksum" l.checksum

/-- The text of a lockfile. -/
def Lockfile.toText (l : Lockfile) : Text :=
  writeField 2 "root" l.root ++ writeField 2 "generated" l.generated ++ writeField 2 "tool" l.tool
    ++ match l.entries with
      | [] => utf8 "lessons: []\n"
      | es => utf8 "lessons:\n" ++ es.flatMap LockedLesson.toText

end LessonLang
