import LessonLang.Address
import LessonLang.Address.Numeric
import LessonLang.Calendar
import LessonLang.Command
import LessonLang.Command.Fetch
import LessonLang.Command.Inspect
import LessonLang.Command.Options
import LessonLang.Command.Run
import LessonLang.Decimal.Binary
import LessonLang.Decimal.Literal
import LessonLang.Decimal.Numeral
import LessonLang.Decimal.Shortest
import LessonLang.Diagnostic
import LessonLang.Disk
import LessonLang.Json
import LessonLang.Lesson
import LessonLang.Lockfile
import LessonLang.Lockfile.Read
import LessonLang.Lockfile.Write
import LessonLang.Machine
import LessonLang.Machine.Failure
import LessonLang.Machine.Operator
import LessonLang.Main
import LessonLang.Manifest
import LessonLang.Manifest.Read
import LessonLang.Path
import LessonLang.Pattern
import LessonLang.Pattern.Form
import LessonLang.Pattern.Parse
import LessonLang.Pattern.Property
import LessonLang.Pattern.Search
import LessonLang.Project
import LessonLang.Proofs.Command.Answers
import LessonLang.Proofs.Command.Options
import LessonLang.Proofs.Decimal.Bits
import LessonLang.Proofs.Decimal.Float
import LessonLang.Proofs.Decimal.Layout
import LessonLang.Proofs.Decimal.Nearest
import LessonLang.Proofs.Decimal.Numeral
import LessonLang.Proofs.Decimal.Rounding
import LessonLang.Proofs.Decimal.Shortest
import LessonLang.Proofs.Disk
import LessonLang.Proofs.Fetch.Atomic
import LessonLang.Proofs.Fetch.Checksum
import LessonLang.Proofs.Fetch.Footprint
import LessonLang.Proofs.Fetch.Location
import LessonLang.Proofs.Fetch.Store
import LessonLang.Proofs.Flat
import LessonLang.Proofs.Flat.LoopFree
import LessonLang.Proofs.Flat.Refinement
import LessonLang.Proofs.Flat.Simulation
import LessonLang.Proofs.Grammar
import LessonLang.Proofs.Grammar.Complete
import LessonLang.Proofs.Grammar.Cut
import LessonLang.Proofs.Grammar.Earliest
import LessonLang.Proofs.Grammar.End
import LessonLang.Proofs.Grammar.Layout
import LessonLang.Proofs.Grammar.Rule
import LessonLang.Proofs.Grammar.Sound
import LessonLang.Proofs.Grammar.Written
import LessonLang.Proofs.Json.Finite
import LessonLang.Proofs.Json.Read
import LessonLang.Proofs.Json.Sequence
import LessonLang.Proofs.Json.String
import LessonLang.Proofs.Lockfile
import LessonLang.Proofs.Lockfile.Map
import LessonLang.Proofs.Lockfile.Regular
import LessonLang.Proofs.Lockfile.Saved
import LessonLang.Proofs.Machine.Cancel
import LessonLang.Proofs.Machine.Declared
import LessonLang.Proofs.Machine.Discipline
import LessonLang.Proofs.Machine.Layout
import LessonLang.Proofs.Machine.Limit
import LessonLang.Proofs.Machine.Loop
import LessonLang.Proofs.Machine.Mirror
import LessonLang.Proofs.Machine.Nested
import LessonLang.Proofs.Machine.Path
import LessonLang.Proofs.Machine.Queue
import LessonLang.Proofs.Machine.Safety
import LessonLang.Proofs.Machine.Stop
import LessonLang.Proofs.Manifest
import LessonLang.Proofs.Manifest.Alias
import LessonLang.Proofs.Manifest.Targets
import LessonLang.Proofs.Path
import LessonLang.Proofs.Project
import LessonLang.Proofs.Repository
import LessonLang.Proofs.Scopes
import LessonLang.Proofs.Scopes.Life
import LessonLang.Proofs.Session.Acts
import LessonLang.Proofs.Session.Cancel
import LessonLang.Proofs.Session.Prompt
import LessonLang.Proofs.Session.Refinement
import LessonLang.Proofs.Session.Trail
import LessonLang.Proofs.Table
import LessonLang.Proofs.Text.Trim
import LessonLang.Proofs.Text.Utf8
import LessonLang.Proofs.Token.Closing
import LessonLang.Proofs.Token.Gap
import LessonLang.Proofs.Token.Lexeme
import LessonLang.Proofs.Token.Lines
import LessonLang.Proofs.Token.Listing
import LessonLang.Proofs.Token.Position
import LessonLang.Proofs.Token.Prefix
import LessonLang.Proofs.Token.Tiling
import LessonLang.Proofs.Tree.Bare
import LessonLang.Proofs.Tree.Dumped
import LessonLang.Proofs.Tree.Place
import LessonLang.Proofs.Tree.Reader
import LessonLang.Proofs.Tree.Restored
import LessonLang.Proofs.Tree.Source
import LessonLang.Proofs.Tree.Whole
import LessonLang.Proofs.Value.Compare
import LessonLang.Proofs.Value.Numeral
import LessonLang.Proofs.Value.Shown
import LessonLang.Proofs.World
import LessonLang.Proofs.Yaml.Alike
import LessonLang.Proofs.Yaml.Copy
import LessonLang.Proofs.Yaml.Misfits
import LessonLang.Proofs.Yaml.Transparent
import LessonLang.Proofs.Yaml.Write
import LessonLang.Proofs.Yaml.Yield
import LessonLang.Repository
import LessonLang.Repository.Find
import LessonLang.Revision
import LessonLang.Revision.Parse
import LessonLang.Revision.Token
import LessonLang.Run
import LessonLang.Scopes
import LessonLang.Session
import LessonLang.Sha256
import LessonLang.Shell
import LessonLang.Table
import LessonLang.Text
import LessonLang.Text.Base64
import LessonLang.Text.Blank
import LessonLang.Text.Category
import LessonLang.Text.Category.Letters
import LessonLang.Text.Category.Marks
import LessonLang.Text.Category.Numbers
import LessonLang.Text.Category.Punctuation
import LessonLang.Text.Category.Separators
import LessonLang.Text.Category.Symbols
import LessonLang.Text.Fold
import LessonLang.Text.Printable
import LessonLang.Text.Quoted
import LessonLang.Text.Ranges
import LessonLang.Text.Script
import LessonLang.Text.Utf8
import LessonLang.Timestamp
import LessonLang.Token
import LessonLang.Token.Scan
import LessonLang.Tree
import LessonLang.Tree.Dump
import LessonLang.Tree.Parse
import LessonLang.Value
import LessonLang.World
import LessonLang.Yaml.Cursor
import LessonLang.Yaml.Decoder
import LessonLang.Yaml.Node
import LessonLang.Yaml.Record
import LessonLang.Yaml.Scalar
import LessonLang.Yaml.Source
import LessonLang.Yaml.Tag
import LessonLang.Yaml.Token
import LessonLang.Yaml.TokenQueue
import LessonLang.Yaml.Write
