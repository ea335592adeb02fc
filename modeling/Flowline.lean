import Flowline.Builtin.Registry
import Flowline.Decimal.Layout
import Flowline.Decimal.Reading
import Flowline.Descriptor
import Flowline.Entries
import Flowline.Http.Offline
import Flowline.Http.Script
import Flowline.InputResolution
import Flowline.Json.Decoder
import Flowline.Json.Interpretation
import Flowline.Json.Printer
import Flowline.Json.Reader
import Flowline.Json.Skipper
import Flowline.Lookup
import Flowline.Main
import Flowline.Monitor.Journal
import Flowline.Monitor.Memory
import Flowline.Operator
import Flowline.Pattern
import Flowline.Pattern.Class
import Flowline.Pattern.Reader
import Flowline.Pattern.Scanner
import Flowline.Plan.Compile
import Flowline.Proofs.Builtin.Calculator
import Flowline.Proofs.Builtin.Delivery
import Flowline.Proofs.Builtin.Gates
import Flowline.Proofs.Builtin.Headers
import Flowline.Proofs.Builtin.MatchModes
import Flowline.Proofs.Builtin.Sending
import Flowline.Proofs.Comparison
import Flowline.Proofs.Decimal.Arithmetic
import Flowline.Proofs.Decimal.Binary64
import Flowline.Proofs.Decimal.Integers
import Flowline.Proofs.Decimal.Nearest
import Flowline.Proofs.Decimal.Order
import Flowline.Proofs.Decimal.Reading
import Flowline.Proofs.Decimal.Value
import Flowline.Proofs.Entries
import Flowline.Proofs.Except
import Flowline.Proofs.Graph.Cycle
import Flowline.Proofs.Graph.WorkLoop
import Flowline.Proofs.Json.Descriptors
import Flowline.Proofs.Json.Records
import Flowline.Proofs.Json.RoundTrip
import Flowline.Proofs.Lists
import Flowline.Proofs.Monitor.Interleaving
import Flowline.Proofs.Monitor.Memory
import Flowline.Proofs.Plan.Acceptance
import Flowline.Proofs.Plan.Checks
import Flowline.Proofs.Plan.DependencyGraph
import Flowline.Proofs.Plan.ExecutionOrder
import Flowline.Proofs.Plan.Frontier
import Flowline.Proofs.Plan.Placement
import Flowline.Proofs.Plan.Renaming
import Flowline.Proofs.Plan.Representation
import Flowline.Proofs.Plan.Routing
import Flowline.Proofs.Plan.Topological
import Flowline.Proofs.Run.Accounts
import Flowline.Proofs.Run.Branching
import Flowline.Proofs.Run.Collection
import Flowline.Proofs.Run.Decision
import Flowline.Proofs.Run.Deprivation
import Flowline.Proofs.Run.FailFast
import Flowline.Proofs.Run.Fate
import Flowline.Proofs.Run.Final
import Flowline.Proofs.Run.Gathering
import Flowline.Proofs.Run.Invocation
import Flowline.Proofs.Run.Isolation
import Flowline.Proofs.Run.Loss
import Flowline.Proofs.Run.Meaning
import Flowline.Proofs.Run.Mirroring
import Flowline.Proofs.Run.Postings
import Flowline.Proofs.Run.Protocol
import Flowline.Proofs.Run.Record
import Flowline.Proofs.Run.Relabelling
import Flowline.Proofs.Run.Renaming
import Flowline.Proofs.Run.Reordering
import Flowline.Proofs.Run.Reports
import Flowline.Proofs.Run.Segment
import Flowline.Proofs.Run.Settings
import Flowline.Proofs.Run.Sheltered
import Flowline.Proofs.Run.Trace
import Flowline.Proofs.Run.Verdict
import Flowline.Proofs.Run.Walk
import Flowline.Proofs.Run.Wiring
import Flowline.Proofs.Signal
import Flowline.Proofs.Text.Lowercase
import Flowline.Proofs.Text.Slug
import Flowline.Proofs.Validation.Agreement
import Flowline.Proofs.Validation.Counting
import Flowline.Proofs.Validation.CycleReport
import Flowline.Proofs.Validation.Elimination
import Flowline.Proofs.Validation.Supply
import Flowline.Proofs.Workflow.Building
import Flowline.Proofs.Workflow.Decoding
import Flowline.Proofs.Workflow.Handle
import Flowline.Run.Response
import Flowline.Signal
import Flowline.Text.Alphanumeric
import Flowline.Text.Blank
import Flowline.Text.Case
import Flowline.Text.Folding
import Flowline.Text.Property
import Flowline.Text.Quoted
import Flowline.Trigger
import Flowline.Validation
import Flowline.Workflow.Building
