import BucketLifecycle.Bucket.Labels
import BucketLifecycle.Bucket.Name
import BucketLifecycle.Bucket.Snapshot
import BucketLifecycle.Bucket.SnapshotJson
import BucketLifecycle.Bucket.Uri
import BucketLifecycle.Client.Basic
import BucketLifecycle.Client.Status
import BucketLifecycle.Clock
import BucketLifecycle.Command.Basic
import BucketLifecycle.Command.Completion
import BucketLifecycle.Command.EnvironmentFile
import BucketLifecycle.Command.Execute
import BucketLifecycle.Command.Level
import BucketLifecycle.Command.Line
import BucketLifecycle.Command.Options
import BucketLifecycle.Command.Usage
import BucketLifecycle.Decimal.Nearest
import BucketLifecycle.Decimal.Reader
import BucketLifecycle.Decimal.Shortest
import BucketLifecycle.Document.Datum
import BucketLifecycle.Duration
import BucketLifecycle.Failure
import BucketLifecycle.FileTree
import BucketLifecycle.Http.Charset
import BucketLifecycle.Http.CharsetTable
import BucketLifecycle.Http.MediaType
import BucketLifecycle.Http.Message
import BucketLifecycle.Http.Network
import BucketLifecycle.Ini.Reader
import BucketLifecycle.Json.Basic
import BucketLifecycle.Json.Decode
import BucketLifecycle.Json.Lexer
import BucketLifecycle.Json.Number
import BucketLifecycle.Json.Reader
import BucketLifecycle.Json.Writer
import BucketLifecycle.Json5.Reader
import BucketLifecycle.Json5.Text
import BucketLifecycle.Main
import BucketLifecycle.Object.Info
import BucketLifecycle.Path
import BucketLifecycle.Policy
import BucketLifecycle.Program
import BucketLifecycle.Proofs.Bucket.BareName
import BucketLifecycle.Proofs.Bucket.DesiredState
import BucketLifecycle.Proofs.Bucket.Fields
import BucketLifecycle.Proofs.Bucket.Generation
import BucketLifecycle.Proofs.Bucket.Joining
import BucketLifecycle.Proofs.Bucket.Metadata
import BucketLifecycle.Proofs.Bucket.Rearrangement
import BucketLifecycle.Proofs.Bucket.SnapshotRoundTrip
import BucketLifecycle.Proofs.Bucket.UriGrammar
import BucketLifecycle.Proofs.Client.Acceptance
import BucketLifecycle.Proofs.Client.Correction
import BucketLifecycle.Proofs.Client.Disconnection
import BucketLifecycle.Proofs.Client.Exchanges
import BucketLifecycle.Proofs.Client.HttpRetries
import BucketLifecycle.Proofs.Client.Inquiry
import BucketLifecycle.Proofs.Client.ObjectRequests
import BucketLifecycle.Proofs.Client.Outcomes
import BucketLifecycle.Proofs.Client.Requests
import BucketLifecycle.Proofs.Command.Expire
import BucketLifecycle.Proofs.Command.Rejection
import BucketLifecycle.Proofs.Decimal.Grammar
import BucketLifecycle.Proofs.Http.Transcript
import BucketLifecycle.Proofs.Json.Grammar
import BucketLifecycle.Proofs.Json.Lexeme
import BucketLifecycle.Proofs.Json.Lexing
import BucketLifecycle.Proofs.Json.Meaning
import BucketLifecycle.Proofs.Json.Members
import BucketLifecycle.Proofs.Json.Rearranged
import BucketLifecycle.Proofs.Json.Record
import BucketLifecycle.Proofs.Json.Thorough
import BucketLifecycle.Proofs.Json.Writing
import BucketLifecycle.Proofs.Path.Components
import BucketLifecycle.Proofs.Path.Placement
import BucketLifecycle.Proofs.Policy.Converging
import BucketLifecycle.Proofs.Reconcile.Attribution
import BucketLifecycle.Proofs.Reconcile.Budget
import BucketLifecycle.Proofs.Reconcile.CallProtocol
import BucketLifecycle.Proofs.Reconcile.Convergence
import BucketLifecycle.Proofs.Reconcile.Counters
import BucketLifecycle.Proofs.Reconcile.Course
import BucketLifecycle.Proofs.Reconcile.CreationRace
import BucketLifecycle.Proofs.Reconcile.Deadline
import BucketLifecycle.Proofs.Reconcile.Independence
import BucketLifecycle.Proofs.Reconcile.Interference
import BucketLifecycle.Proofs.Reconcile.LostAnswers
import BucketLifecycle.Proofs.Reconcile.Phase
import BucketLifecycle.Proofs.Reconcile.Precedence
import BucketLifecycle.Proofs.Reconcile.SentSnapshots
import BucketLifecycle.Proofs.Reconcile.Succession
import BucketLifecycle.Proofs.Retry.Attempts
import BucketLifecycle.Proofs.Retry.Backoff
import BucketLifecycle.Proofs.Retry.RetryLaw
import BucketLifecycle.Proofs.Run.Deadline
import BucketLifecycle.Proofs.Run.Interleaving
import BucketLifecycle.Proofs.Run.Journal
import BucketLifecycle.Proofs.Run.NestedRun
import BucketLifecycle.Proofs.Run.Separation
import BucketLifecycle.Proofs.Settings.Codec
import BucketLifecycle.Proofs.Settings.FileLayer
import BucketLifecycle.Proofs.Settings.Layering
import BucketLifecycle.Proofs.Settings.Names
import BucketLifecycle.Proofs.Settings.Places
import BucketLifecycle.Proofs.Settings.Provision
import BucketLifecycle.Proofs.Settings.TextValues
import BucketLifecycle.Proofs.Settings.VariableLayer
import BucketLifecycle.Proofs.Store.Cells
import BucketLifecycle.Proofs.Store.Faulty
import BucketLifecycle.Proofs.Store.Generations
import BucketLifecycle.Proofs.Store.History
import BucketLifecycle.Proofs.Store.Memory
import BucketLifecycle.Proofs.Store.Shared
import BucketLifecycle.Proofs.Text.Characters
import BucketLifecycle.Proofs.Text.Numeral
import BucketLifecycle.Proofs.Text.Utf8
import BucketLifecycle.Proofs.Text.Utf8Spelling
import BucketLifecycle.Proofs.Timestamp.RoundTrip
import BucketLifecycle.Proofs.Toml.DistinctKeys
import BucketLifecycle.Proofs.Transfer.Download
import BucketLifecycle.Proofs.Transfer.LocalPath
import BucketLifecycle.Proofs.Transfer.NamingRoundTrip
import BucketLifecycle.Proofs.Transfer.ObjectName
import BucketLifecycle.Proofs.Url.Below
import BucketLifecycle.Proofs.Url.Percent
import BucketLifecycle.Reconcile
import BucketLifecycle.Retry
import BucketLifecycle.Retry.Codec
import BucketLifecycle.Ron.Reader
import BucketLifecycle.Ron.Text
import BucketLifecycle.Settings.Basic
import BucketLifecycle.Settings.Decode
import BucketLifecycle.Settings.Document
import BucketLifecycle.Settings.Environment
import BucketLifecycle.Settings.File
import BucketLifecycle.Settings.Layer
import BucketLifecycle.Settings.Load
import BucketLifecycle.Settings.Tree
import BucketLifecycle.Store.Memory
import BucketLifecycle.Store.Script
import BucketLifecycle.Text.Alphanumeric
import BucketLifecycle.Text.Blank
import BucketLifecycle.Text.CombiningClass
import BucketLifecycle.Text.Composition
import BucketLifecycle.Text.CompositionTable
import BucketLifecycle.Text.Decimal
import BucketLifecycle.Text.Direction
import BucketLifecycle.Text.Hexadecimal
import BucketLifecycle.Text.Joining
import BucketLifecycle.Text.Letter
import BucketLifecycle.Text.Mark
import BucketLifecycle.Text.Quoted
import BucketLifecycle.Text.Reader
import BucketLifecycle.Text.RunTable
import BucketLifecycle.Text.Segments
import BucketLifecycle.Text.Unprintable
import BucketLifecycle.Text.Utf8
import BucketLifecycle.Timestamp.Basic
import BucketLifecycle.Timestamp.Reader
import BucketLifecycle.Timestamp.Writer
import BucketLifecycle.Toml.Basic
import BucketLifecycle.Toml.Reader
import BucketLifecycle.Toml.Scalar
import BucketLifecycle.Toml.Text
import BucketLifecycle.Transfer.Basic
import BucketLifecycle.Transfer.ContentType
import BucketLifecycle.Transfer.Naming
import BucketLifecycle.Url.Basic
import BucketLifecycle.Url.Domain
import BucketLifecycle.Url.Host
import BucketLifecycle.Url.Label
import BucketLifecycle.Url.NameTable
import BucketLifecycle.Url.Parser
import BucketLifecycle.Url.Percent
import BucketLifecycle.Url.Punycode
import BucketLifecycle.Yaml.Cursor
import BucketLifecycle.Yaml.Node
import BucketLifecycle.Yaml.Reader
import BucketLifecycle.Yaml.Scalar
import BucketLifecycle.Yaml.Tag
import BucketLifecycle.Yaml.Token
