import SnapshotRules.Batch.Concurrent
import SnapshotRules.Batch.Machine
import SnapshotRules.Batch.Permits
import SnapshotRules.Batch.Report
import SnapshotRules.Batch.Sequential
import SnapshotRules.Chunks
import SnapshotRules.Command.Arguments
import SnapshotRules.Command.EnvironmentFile
import SnapshotRules.Command.Run
import SnapshotRules.Config
import SnapshotRules.Definition.Loading
import SnapshotRules.Definition.Snapshots
import SnapshotRules.Definition.Tests
import SnapshotRules.Digest
import SnapshotRules.Distinct
import SnapshotRules.Entries
import SnapshotRules.Files.Reading
import SnapshotRules.Files.Tree
import SnapshotRules.Function.Collection
import SnapshotRules.Function.Fault
import SnapshotRules.Function.Registry
import SnapshotRules.Http.MediaType
import SnapshotRules.Http.Posted
import SnapshotRules.Http.Routes
import SnapshotRules.Json.Event
import SnapshotRules.Json.Number
import SnapshotRules.Json.Reader
import SnapshotRules.Main
import SnapshotRules.Number.Basic
import SnapshotRules.Number.Double
import SnapshotRules.Number.Numeral
import SnapshotRules.Number.Shortest
import SnapshotRules.Proofs.Batch.Accounting
import SnapshotRules.Proofs.Batch.Agreement
import SnapshotRules.Proofs.Batch.Concurrent
import SnapshotRules.Proofs.Batch.Interleaving
import SnapshotRules.Proofs.Batch.Lifetime
import SnapshotRules.Proofs.Batch.Moves
import SnapshotRules.Proofs.Batch.Progress
import SnapshotRules.Proofs.Batch.Recovery
import SnapshotRules.Proofs.Batch.Sequential
import SnapshotRules.Proofs.Batch.Steps
import SnapshotRules.Proofs.Batch.Unchanging
import SnapshotRules.Proofs.Config.Overriding
import SnapshotRules.Proofs.Config.Permits
import SnapshotRules.Proofs.Definition.Naming
import SnapshotRules.Proofs.Definition.Populating
import SnapshotRules.Proofs.Function.Chunking
import SnapshotRules.Proofs.Function.Duplicates
import SnapshotRules.Proofs.Function.Element
import SnapshotRules.Proofs.Function.Guarding
import SnapshotRules.Proofs.Function.Intersection
import SnapshotRules.Proofs.Function.Membership
import SnapshotRules.Proofs.Function.Merging
import SnapshotRules.Proofs.Function.Registering
import SnapshotRules.Proofs.Http.Reports
import SnapshotRules.Proofs.Number.Integral
import SnapshotRules.Proofs.Number.Numerals
import SnapshotRules.Proofs.Number.Order
import SnapshotRules.Proofs.Number.Rounding
import SnapshotRules.Proofs.Record.Parts
import SnapshotRules.Proofs.Record.Reporting
import SnapshotRules.Proofs.Record.RoundTrip
import SnapshotRules.Proofs.Rule.Cancelling
import SnapshotRules.Proofs.Rule.Collecting
import SnapshotRules.Proofs.Rule.Dependence
import SnapshotRules.Proofs.Rule.DottedName
import SnapshotRules.Proofs.Rule.Failing
import SnapshotRules.Proofs.Rule.Folding
import SnapshotRules.Proofs.Rule.Grammar
import SnapshotRules.Proofs.Rule.Lexing
import SnapshotRules.Proofs.Rule.Numbers
import SnapshotRules.Proofs.Rule.Parsing
import SnapshotRules.Proofs.Rule.Placing
import SnapshotRules.Proofs.Rule.Printing
import SnapshotRules.Proofs.Rule.Quoting
import SnapshotRules.Proofs.Rule.Resolving
import SnapshotRules.Proofs.Rule.Spacing
import SnapshotRules.Proofs.Rule.Viability
import SnapshotRules.Proofs.Rule.Walking
import SnapshotRules.Proofs.Snapshot.Answering
import SnapshotRules.Proofs.Snapshot.Fetching
import SnapshotRules.Proofs.Snapshot.History
import SnapshotRules.Proofs.Snapshot.Isolation
import SnapshotRules.Proofs.Snapshot.Joining
import SnapshotRules.Proofs.Snapshot.Latest
import SnapshotRules.Proofs.Snapshot.Serving
import SnapshotRules.Proofs.Value.Classes
import SnapshotRules.Proofs.Value.Equality
import SnapshotRules.Proofs.Value.Ordering
import SnapshotRules.Proofs.Value.Reordering
import SnapshotRules.Record.Evaluation
import SnapshotRules.Record.Format
import SnapshotRules.Record.Report
import SnapshotRules.Record.Stamp
import SnapshotRules.Rule.Error
import SnapshotRules.Rule.Evaluation
import SnapshotRules.Rule.Expression
import SnapshotRules.Rule.Lexer
import SnapshotRules.Rule.Operator
import SnapshotRules.Rule.Parser
import SnapshotRules.Rule.Resolution
import SnapshotRules.Rule.Token
import SnapshotRules.Snapshot.Context
import SnapshotRules.Snapshot.Document
import SnapshotRules.Snapshot.Join
import SnapshotRules.Snapshot.Source
import SnapshotRules.Text.Alphanumeric
import SnapshotRules.Text.Blank
import SnapshotRules.Text.CaseTables
import SnapshotRules.Text.LowerCase
import SnapshotRules.Value.Basic
import SnapshotRules.Value.Comparison
import SnapshotRules.Value.Indented
import SnapshotRules.Value.Path
import SnapshotRules.Value.Text
import SnapshotRules.Yaml.Format
import SnapshotRules.Yaml.Layout
import SnapshotRules.Yaml.Node
import SnapshotRules.Yaml.Scalar
import SnapshotRules.Yaml.Token
