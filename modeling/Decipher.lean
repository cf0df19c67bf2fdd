import Decipher.Binary64.Basic
import Decipher.Binary64.Shortest
import Decipher.Cache.File
import Decipher.Cache.Key
import Decipher.Cache.Memory
import Decipher.Cache.Race
import Decipher.Cache.Source
import Decipher.Cache.Storable
import Decipher.CommandLine.Arguments
import Decipher.CommandLine.Command
import Decipher.CommandLine.Run
import Decipher.Config.Basic
import Decipher.Config.Environment
import Decipher.Config.Reader
import Decipher.Digest.Blake3
import Decipher.Files.Path
import Decipher.Files.Tree
import Decipher.Json.Fault
import Decipher.Json.Numeral
import Decipher.Json.Printer
import Decipher.Json.Reader
import Decipher.Json.Record
import Decipher.Json.Value
import Decipher.Main
import Decipher.Pattern.Basic
import Decipher.Pattern.Template
import Decipher.Pipeline.Disk
import Decipher.Pipeline.Error
import Decipher.Pipeline.Memory
import Decipher.Pipeline.Preprocessor
import Decipher.Pipeline.Shelf
import Decipher.Pipeline.Stage
import Decipher.Pipeline.Succession
import Decipher.Pipeline.Traffic
import Decipher.Pool.Basic
import Decipher.Pool.Behaviour
import Decipher.Pool.Error
import Decipher.Pool.Move
import Decipher.Pool.Rehearsal
import Decipher.Pool.Turn
import Decipher.Pool.Verdict
import Decipher.Proofs.Binary64.Order
import Decipher.Proofs.Binary64.Rounding
import Decipher.Proofs.Binary64.Shortest
import Decipher.Proofs.Cache.Atomicity
import Decipher.Proofs.Cache.File
import Decipher.Proofs.Cache.Interruption
import Decipher.Proofs.Cache.Names
import Decipher.Proofs.Cache.Race
import Decipher.Proofs.CommandLine.TwoSteps
import Decipher.Proofs.Config.Environment
import Decipher.Proofs.Files.Change
import Decipher.Proofs.Files.Descent
import Decipher.Proofs.Files.Directory
import Decipher.Proofs.Files.Growth
import Decipher.Proofs.Files.Path
import Decipher.Proofs.Files.Rooted
import Decipher.Proofs.Json.Numeral
import Decipher.Proofs.Json.Reread
import Decipher.Proofs.Json.RoundTrip
import Decipher.Proofs.Json.WellFormed
import Decipher.Proofs.Pattern.Acceptance
import Decipher.Proofs.Pattern.Compilation
import Decipher.Proofs.Pattern.Defects
import Decipher.Proofs.Pattern.Order
import Decipher.Proofs.Pipeline.Alone
import Decipher.Proofs.Pipeline.Containment
import Decipher.Proofs.Pipeline.Course
import Decipher.Proofs.Pipeline.Disk
import Decipher.Proofs.Pipeline.Economy
import Decipher.Proofs.Pipeline.Miss
import Decipher.Proofs.Pipeline.Persistence
import Decipher.Proofs.Pipeline.Shelf
import Decipher.Proofs.Pipeline.Transparency
import Decipher.Proofs.Pipeline.Usability
import Decipher.Proofs.Pool.Assignment
import Decipher.Proofs.Pool.Cancellation
import Decipher.Proofs.Pool.Change
import Decipher.Proofs.Pool.Correlation
import Decipher.Proofs.Pool.Departure
import Decipher.Proofs.Pool.Ledger
import Decipher.Proofs.Pool.Outstanding
import Decipher.Proofs.Pool.Progress
import Decipher.Proofs.Pool.Rehearsal
import Decipher.Proofs.Pool.Service
import Decipher.Proofs.Results
import Decipher.Proofs.Script.Cancellation
import Decipher.Proofs.Script.Grouping
import Decipher.Proofs.Script.Idempotence
import Decipher.Proofs.Script.Nesting
import Decipher.Proofs.Script.Prune
import Decipher.Proofs.Script.Reference
import Decipher.Proofs.Script.Shape
import Decipher.Proofs.Script.Term
import Decipher.Proofs.Solver.Capture
import Decipher.Proofs.Solver.Description
import Decipher.Proofs.Solver.Entry
import Decipher.Proofs.Solver.Extraction
import Decipher.Proofs.Solver.Parameter
import Decipher.Proofs.Solver.SourceText
import Decipher.Proofs.Text.Word
import Decipher.Script.Expression
import Decipher.Script.Prune
import Decipher.Script.Shape
import Decipher.Solver.Basic
import Decipher.Solver.Entry
import Decipher.Solver.Extract
import Decipher.Text.Blank
import Decipher.Text.Position
import Decipher.Text.Quoted
import Decipher.Text.Utf8
import Decipher.Text.Visible
import Decipher.Text.Word
import Decipher.Yaml.Cursor
import Decipher.Yaml.Document
import Decipher.Yaml.Event
import Decipher.Yaml.Fault
import Decipher.Yaml.Scalar
import Decipher.Yaml.Token
import Decipher.Yaml.Token.Lexer
import Decipher.Yaml.Token.Names
import Decipher.Yaml.Token.Scalars
