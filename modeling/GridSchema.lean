import GridSchema.Cache.Basic
import GridSchema.Cache.Record
import GridSchema.Cache.Seed
import GridSchema.Calendar
import GridSchema.Catalog.Basic
import GridSchema.Catalog.Schema
import GridSchema.Client.Basic
import GridSchema.Command.Invocation
import GridSchema.Command.Line
import GridSchema.Command.Run
import GridSchema.Data.Double
import GridSchema.Data.NameMap
import GridSchema.Digest.Sha256
import GridSchema.Discovery.Drain
import GridSchema.Discovery.Node
import GridSchema.Disk.Basic
import GridSchema.Disk.Path
import GridSchema.Error
import GridSchema.Fault
import GridSchema.Instance.Basic
import GridSchema.Instance.Change
import GridSchema.Instance.Config
import GridSchema.Instance.Connection
import GridSchema.Instance.Grid
import GridSchema.Json.Basic
import GridSchema.Json.Parser
import GridSchema.Json.Printer
import GridSchema.Json.Range
import GridSchema.Json.Reader
import GridSchema.Main
import GridSchema.Network.Basic
import GridSchema.Network.Client
import GridSchema.Network.Deployment
import GridSchema.Network.Endpoint
import GridSchema.Options.Argument
import GridSchema.Options.Basic
import GridSchema.Options.Load
import GridSchema.Options.Record
import GridSchema.Options.Validation
import GridSchema.Options.Yaml
import GridSchema.Record
import GridSchema.Session.Basic
import GridSchema.Snapshot.File
import GridSchema.Snapshot.Name
import GridSchema.Snapshot.Report
import GridSchema.Snapshot.Run
import GridSchema.SqlType
import GridSchema.Table.Basic
import GridSchema.Table.Ddl
import GridSchema.Table.OfCache
import GridSchema.Table.Record
import GridSchema.Text.Blank
import GridSchema.Text.Digits
import GridSchema.Text.Graphic
import GridSchema.Text.Split
import GridSchema.Text.Upper
import GridSchema.Text.Utf8
import GridSchema.Wire.Describe
import GridSchema.Wire.Frame
import GridSchema.Wire.Message
import GridSchema.Yaml.Character
import GridSchema.Yaml.Cursor
import GridSchema.Yaml.Directive
import GridSchema.Yaml.Node
import GridSchema.Yaml.Parser
import GridSchema.Yaml.Reader
import GridSchema.Yaml.Scalar
import GridSchema.Yaml.Scanner
import GridSchema.Yaml.Token
import GridSchema.Proofs.Disk.Entries
import GridSchema.Proofs.Disk.Files
import GridSchema.Proofs.Disk.Directories
import GridSchema.Proofs.Snapshot.File
import GridSchema.Proofs.Snapshot.Interview
import GridSchema.Proofs.Snapshot.Run
import GridSchema.Proofs.Disk.Spares
import GridSchema.Proofs.Snapshot.Steps
import GridSchema.Proofs.Snapshot.Parallel
import GridSchema.Proofs.Instance.Registrar
import GridSchema.Proofs.Instance.Linearizable
import GridSchema.Proofs.Text.Utf8
import GridSchema.Proofs.Data.NameMap
import GridSchema.Proofs.Json.Spelling
import GridSchema.Proofs.Json.RoundTrip
import GridSchema.Proofs.Json.Size
import GridSchema.Proofs.Cache.Record
import GridSchema.Proofs.Wire.Message
import GridSchema.Proofs.Wire.Frame
import GridSchema.Proofs.Client.Calls
import GridSchema.Proofs.Instance.Resting
import GridSchema.Proofs.Network.Events
import GridSchema.Proofs.Network.Pairing
import GridSchema.Proofs.Network.ReadBack
import GridSchema.Proofs.Network.Reference
import GridSchema.Proofs.Discovery.History
import GridSchema.Proofs.Discovery.Order
import GridSchema.Proofs.Discovery.Stop
import GridSchema.Proofs.Discovery.Drain
import GridSchema.Proofs.Table.Mapping
import GridSchema.Proofs.Table.Reading
import GridSchema.Proofs.Snapshot.Degrading
import GridSchema.Proofs.Disk.Path
import GridSchema.Proofs.Snapshot.Confinement
import GridSchema.Proofs.Instance.Serving
import GridSchema.Proofs.Network.Moments
import GridSchema.Proofs.Snapshot.Concurrent
import GridSchema.Proofs.Network.Endpoint
import GridSchema.Proofs.Session.Launch
import GridSchema.Proofs.Session.Seeding
import GridSchema.Proofs.Disk.SameNames
import GridSchema.Proofs.Snapshot.Target
import GridSchema.Proofs.Command.Playground
import GridSchema.Proofs.Discovery.Lifecycle
import GridSchema.Proofs.Table.Depiction
import GridSchema.Proofs.Disk.Existing
import GridSchema.Proofs.Snapshot.Index
import GridSchema.Proofs.Snapshot.Fresh
import GridSchema.Proofs.Snapshot.Handles
import GridSchema.Proofs.Wire.Stream
import GridSchema.Proofs.Json.Truncation
import GridSchema.Proofs.Wire.Truncation
import GridSchema.Proofs.Disk.Listing
import GridSchema.Proofs.Snapshot.Successive
import GridSchema.Proofs.Instance.Stopping
import GridSchema.Proofs.Instance.Accounts
import GridSchema.Proofs.Instance.Answers
import GridSchema.Proofs.Discovery.Levels
import GridSchema.Proofs.Catalog.Schema
import GridSchema.Proofs.Catalog.Lookup
import GridSchema.Proofs.Network.Lookup
import GridSchema.Proofs.Snapshot.Discard
import GridSchema.Proofs.Options.Argument
import GridSchema.Proofs.Options.Properties
import GridSchema.Proofs.Command.Precedence
import GridSchema.Proofs.Network.Address
import GridSchema.Proofs.Session.Lifecycle
import GridSchema.Proofs.Discovery.Topology
import GridSchema.Proofs.Error.Wrapping
