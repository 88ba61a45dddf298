import Autograder.Buckets
import Autograder.Buckets.Listing
import Autograder.Buckets.Mismatch
import Autograder.Buckets.Output
import Autograder.CommandLine
import Autograder.Config
import Autograder.Config.File
import Autograder.Config.Reader
import Autograder.Corpus
import Autograder.Corpus.File
import Autograder.Diagnostic
import Autograder.Files.Device
import Autograder.Files.Edit
import Autograder.Files.Path
import Autograder.Files.Tree
import Autograder.Grader
import Autograder.Json.Number
import Autograder.Json.Printer
import Autograder.Json.Reader
import Autograder.Json.Value
import Autograder.Log
import Autograder.Log.Event
import Autograder.Log.Logger
import Autograder.Main
import Autograder.Message
import Autograder.Number.Binary
import Autograder.Number.Reader
import Autograder.Number.Shortest
import Autograder.Number.Significant
import Autograder.Number.Written
import Autograder.Process
import Autograder.Proofs.Buckets.Agreement
import Autograder.Proofs.Buckets.Bucket
import Autograder.Proofs.Buckets.Delivery
import Autograder.Proofs.Buckets.Fault
import Autograder.Proofs.Buckets.Grammar
import Autograder.Proofs.Buckets.Listing
import Autograder.Proofs.Buckets.Output
import Autograder.Proofs.Buckets.Run
import Autograder.Proofs.Config.Bounds
import Autograder.Proofs.Config.Valid
import Autograder.Proofs.Corpus.Lines
import Autograder.Proofs.Corpus.RoundTrip
import Autograder.Proofs.Corpus.Sections
import Autograder.Proofs.Files.Change
import Autograder.Proofs.Files.Device
import Autograder.Proofs.Files.Path
import Autograder.Proofs.Grader.Outcome
import Autograder.Proofs.Grader.Report
import Autograder.Proofs.Json.Number
import Autograder.Proofs.Json.RoundTrip
import Autograder.Proofs.Json.Strings
import Autograder.Proofs.Log.Logger
import Autograder.Proofs.Message.Sanitized
import Autograder.Proofs.Number.Order
import Autograder.Proofs.Number.Quotient
import Autograder.Proofs.Report.Assembly
import Autograder.Proofs.Report.RoundTrip
import Autograder.Proofs.Report.Summary
import Autograder.Proofs.Subject.Transcript
import Autograder.Proofs.Suite.Artifacts
import Autograder.Proofs.Suite.Build
import Autograder.Proofs.Suite.ExchangeCourse
import Autograder.Proofs.Suite.ExchangeFiles
import Autograder.Proofs.Suite.ExchangeGenerated
import Autograder.Proofs.Suite.ExchangeGrade
import Autograder.Proofs.Suite.Explained
import Autograder.Proofs.Suite.Housekeeping
import Autograder.Proofs.Suite.PiBounds
import Autograder.Proofs.Suite.PiCalls
import Autograder.Proofs.Suite.PiGrade
import Autograder.Proofs.Suite.PiLines
import Autograder.Proofs.Suite.PiLog
import Autograder.Proofs.Suite.PiSteps
import Autograder.Proofs.Suite.State
import Autograder.Proofs.Sweep.Blocks
import Autograder.Proofs.Sweep.Increasing
import Autograder.Proofs.Sweep.Independence
import Autograder.Proofs.Sweep.Judgment
import Autograder.Proofs.Sweep.Rules
import Autograder.Proofs.Sweep.Speedup
import Autograder.Proofs.Sweep.Walk
import Autograder.Proofs.Text.Blank
import Autograder.Proofs.Text.Decimal
import Autograder.Proofs.Text.LineByLine
import Autograder.Proofs.Text.LineEnds
import Autograder.Proofs.Text.Lines
import Autograder.Proofs.Workload.Drawn
import Autograder.Proofs.Workload.Echo
import Autograder.Proofs.Workload.EmptyPayload
import Autograder.Proofs.Workload.Grammar
import Autograder.Proofs.Workload.Lines
import Autograder.Proofs.Workload.Payload
import Autograder.Proofs.Workload.RoundTrip
import Autograder.Proofs.Workload.Stream
import Autograder.Random.ChaCha
import Autograder.Random.Dice
import Autograder.Report
import Autograder.Report.Json
import Autograder.Report.Timestamp
import Autograder.Shell.Builtin
import Autograder.Shell.Builtin.Basic
import Autograder.Shell.Builtin.Processes
import Autograder.Shell.Builtin.Variables
import Autograder.Shell.Calculation
import Autograder.Shell.Command
import Autograder.Shell.Condition
import Autograder.Shell.Editing.Program
import Autograder.Shell.Editing.Reader
import Autograder.Shell.Editing.Run
import Autograder.Shell.Expansion
import Autograder.Shell.Job
import Autograder.Shell.Machine
import Autograder.Shell.Pattern
import Autograder.Shell.Printing
import Autograder.Shell.Program
import Autograder.Shell.Reader
import Autograder.Shell.Redirection
import Autograder.Shell.Regex
import Autograder.Shell.Regex.Reader
import Autograder.Shell.Run
import Autograder.Shell.Script
import Autograder.Shell.Token
import Autograder.Shell.Utility
import Autograder.Shell.Utility.Basic
import Autograder.Shell.Utility.Columns
import Autograder.Shell.Utility.Comparing
import Autograder.Shell.Utility.Editing
import Autograder.Shell.Utility.Filing
import Autograder.Shell.Utility.Making
import Autograder.Shell.Utility.Searching
import Autograder.Shell.Utility.Showing
import Autograder.Shell.Utility.Sorting
import Autograder.Shell.Utility.Values
import Autograder.Subject
import Autograder.Subject.Scripted
import Autograder.Suite.Artifacts
import Autograder.Suite.Build
import Autograder.Suite.Exchange
import Autograder.Suite.Pi
import Autograder.Suite.Settings
import Autograder.Sweep
import Autograder.Text.Blank
import Autograder.Text.Combining
import Autograder.Text.Decimal
import Autograder.Text.Lines
import Autograder.Text.Lossy
import Autograder.Text.Quoted
import Autograder.Text.Unprintable
import Autograder.Verdict
import Autograder.Workload.File
import Autograder.Workload.Generator
import Autograder.Workload.Reader
import Autograder.Yaml.Cursor
import Autograder.Yaml.Node
import Autograder.Yaml.Scalar
import Autograder.Yaml.Token
