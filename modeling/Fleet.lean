import Fleet.Client.Basic
import Fleet.Client.Bulk
import Fleet.Client.Document
import Fleet.Client.Facade
import Fleet.Client.Options
import Fleet.Client.Read
import Fleet.Client.Write
import Fleet.Config
import Fleet.Error
import Fleet.Gate
import Fleet.Json.Basic
import Fleet.Json.Parser
import Fleet.Kind.Basic
import Fleet.Kind.Cluster
import Fleet.Kind.ConfigPatch
import Fleet.Kind.Example
import Fleet.Kind.Machine
import Fleet.Kind.MachineSet
import Fleet.Metadata
import Fleet.Metrics
import Fleet.OrderedMap
import Fleet.Pattern.Basic
import Fleet.Pattern.CharSet
import Fleet.Pattern.Class
import Fleet.Pattern.Escape
import Fleet.Pattern.Parser
import Fleet.Plan
import Fleet.Proofs.Client.Careful
import Fleet.Proofs.Client.Decoding
import Fleet.Proofs.Client.Forwarding
import Fleet.Proofs.Client.Listing
import Fleet.Proofs.Client.Operation
import Fleet.Proofs.Client.Preflight
import Fleet.Proofs.Client.ReadOnly
import Fleet.Proofs.Client.Refinement
import Fleet.Proofs.Client.Stored
import Fleet.Proofs.Client.TypedStore
import Fleet.Proofs.Client.WriteBack
import Fleet.Proofs.OrderedMap
import Fleet.Proofs.Plan.Run
import Fleet.Proofs.Schema.Block
import Fleet.Proofs.Schema.Node
import Fleet.Proofs.Schema.RoundTrip
import Fleet.Proofs.Selector.Agreement
import Fleet.Proofs.Selector.Building
import Fleet.Proofs.Selector.Key
import Fleet.Proofs.Selector.Pieces
import Fleet.Proofs.Selector.RoundTrip
import Fleet.Proofs.Selector.Sets
import Fleet.Proofs.Selector.Term
import Fleet.Proofs.Service.Atomicity
import Fleet.Proofs.Service.Commit
import Fleet.Proofs.Service.EventLog
import Fleet.Proofs.Service.Isolation
import Fleet.Proofs.Service.Life
import Fleet.Proofs.Service.Run
import Fleet.Proofs.Service.Selection
import Fleet.Proofs.Service.Version
import Fleet.Proofs.Service.Watching
import Fleet.Proofs.Session.Exchange
import Fleet.Proofs.Session.Frame
import Fleet.Proofs.Session.Interleaving
import Fleet.Proofs.Session.Linked
import Fleet.Proofs.Session.LostUpdate
import Fleet.Proofs.Session.Reading
import Fleet.Proofs.Session.Serving
import Fleet.Proofs.Text.Blank
import Fleet.Proofs.Text.Digits
import Fleet.Proofs.Wire.RoundTrip
import Fleet.Proofs.Yaml.Chars
import Fleet.Proofs.Yaml.Literal
import Fleet.Proofs.Yaml.Number
import Fleet.Proofs.Yaml.Plain
import Fleet.Proofs.Yaml.Quoted
import Fleet.Proofs.Yaml.Reading
import Fleet.Proofs.Yaml.Scalars
import Fleet.Registry
import Fleet.Resource
import Fleet.Schema.Basic
import Fleet.Schema.Binary
import Fleet.Schema.Json
import Fleet.Schema.Print
import Fleet.Schema.Yaml
import Fleet.Selector
import Fleet.Selector.Scan
import Fleet.Service.Answer
import Fleet.Service.Feed
import Fleet.Service.Query
import Fleet.Service.Store
import Fleet.Session.Basic
import Fleet.Session.Run
import Fleet.Session.Streams
import Fleet.Signer
import Fleet.Stream.Guard
import Fleet.Stream.Source
import Fleet.Text.Blank
import Fleet.Text.Bytes
import Fleet.Text.Case
import Fleet.Text.Digits
import Fleet.Text.Quoted
import Fleet.Text.Ratio
import Fleet.Text.Slice
import Fleet.Time.Calendar
import Fleet.Time.Span
import Fleet.Time.Timestamp
import Fleet.Unicode.CaseRuns
import Fleet.Unicode.Category
import Fleet.Unicode.Extras
import Fleet.Unicode.Letters
import Fleet.Unicode.Marks
import Fleet.Unicode.Ranges
import Fleet.Unicode.Scripts
import Fleet.Unicode.Symbols
import Fleet.Verb
import Fleet.Wire.Basic
import Fleet.Wire.Json
import Fleet.Wire.Payload
import Fleet.Yaml.Chars
import Fleet.Yaml.Node
import Fleet.Yaml.Number
import Fleet.Yaml.Print
import Fleet.Yaml.Token.Basic
import Fleet.Yaml.Token.Reader
import Fleet.Yaml.Token.Scalar
import Fleet.Proofs.Schema.Bytes
import Fleet.Proofs.Session.Attended
import Fleet.Proofs.Session.Accounting
import Fleet.Proofs.Client.Sweeping
import Fleet.Proofs.Client.WholeList
import Fleet.Proofs.Text.Slice
import Fleet.Proofs.Selector.Balance
import Fleet.Proofs.Selector.Splitting
import Fleet.Proofs.Selector.Phrase
import Fleet.Proofs.Selector.Grammar
import Fleet.Proofs.Client.Conjunction
import Fleet.Proofs.Client.Fallback
import Fleet.Proofs.Wire.Metadata
import Fleet.Proofs.Session.Asking
import Fleet.Proofs.Client.Served
import Fleet.Proofs.Client.Applying
import Fleet.Proofs.Client.Locking
import Fleet.Proofs.Client.Batch
import Fleet.Proofs.Text.Case
import Fleet.Proofs.Service.Search
import Fleet.Proofs.Service.Spending
import Fleet.Proofs.Session.Collecting
import Fleet.Proofs.Session.Conflicts
import Fleet.Proofs.Session.Signing
import Fleet.Proofs.Session.StreamReader
import Fleet.Proofs.Session.Guarded
