import NodeSidecar.Catalog
import NodeSidecar.CommandLine
import NodeSidecar.Configuration.Basic
import NodeSidecar.Configuration.Read
import NodeSidecar.Configuration.Tree
import NodeSidecar.Daemon
import NodeSidecar.Fault
import NodeSidecar.Fleet.Basic
import NodeSidecar.Fleet.Clock
import NodeSidecar.Fleet.Metrics
import NodeSidecar.Host.Event
import NodeSidecar.Host.Listeners
import NodeSidecar.Http.Response
import NodeSidecar.Http.Status
import NodeSidecar.Http.Target
import NodeSidecar.Interleaving
import NodeSidecar.Json.Basic
import NodeSidecar.Json.Number
import NodeSidecar.Json.Read
import NodeSidecar.Json.Write
import NodeSidecar.Main
import NodeSidecar.Management.Agent
import NodeSidecar.Management.Interface
import NodeSidecar.Management.Link
import NodeSidecar.Management.ObjectName
import NodeSidecar.Management.Proxy
import NodeSidecar.Management.Storage
import NodeSidecar.Management.Value
import NodeSidecar.Monitor.Basic
import NodeSidecar.Monitor.Update
import NodeSidecar.Net.Address
import NodeSidecar.Node.Basic
import NodeSidecar.Node.Calls
import NodeSidecar.NodeSettings
import NodeSidecar.Program
import NodeSidecar.Proofs.Catalog
import NodeSidecar.Proofs.Configuration.Validation
import NodeSidecar.Proofs.Daemon
import NodeSidecar.Proofs.Execution
import NodeSidecar.Proofs.Fleet.Exposition
import NodeSidecar.Proofs.Fleet.Exposure
import NodeSidecar.Proofs.Fleet.Independence
import NodeSidecar.Proofs.Fleet.Nodes
import NodeSidecar.Proofs.Fleet.Timers
import NodeSidecar.Proofs.Host.Encoding
import NodeSidecar.Proofs.Host.Reentrancy
import NodeSidecar.Proofs.Json.Canonical
import NodeSidecar.Proofs.Json.Reading
import NodeSidecar.Proofs.Management.Agent
import NodeSidecar.Proofs.Management.Double
import NodeSidecar.Proofs.Management.Interface
import NodeSidecar.Proofs.Management.ObjectName
import NodeSidecar.Proofs.Management.Value
import NodeSidecar.Proofs.Monitor.Frame
import NodeSidecar.Proofs.Monitor.Listening
import NodeSidecar.Proofs.Moves
import NodeSidecar.Proofs.Node.Adapters
import NodeSidecar.Proofs.Node.Closing
import NodeSidecar.Proofs.Node.Counting
import NodeSidecar.Proofs.Node.Health
import NodeSidecar.Proofs.Node.History
import NodeSidecar.Proofs.Node.LinkCalls
import NodeSidecar.Proofs.Node.LinkPassage
import NodeSidecar.Proofs.Node.LinkRelease
import NodeSidecar.Proofs.Node.LinkSharing
import NodeSidecar.Proofs.Node.Passage
import NodeSidecar.Proofs.Node.Probes
import NodeSidecar.Proofs.Node.ProxyUses
import NodeSidecar.Proofs.Node.Readers
import NodeSidecar.Proofs.Node.Rejections
import NodeSidecar.Proofs.Node.Sessions
import NodeSidecar.Proofs.Node.Snapshots
import NodeSidecar.Proofs.Node.Teardown
import NodeSidecar.Proofs.Node.Verdict
import NodeSidecar.Proofs.Roster
import NodeSidecar.Proofs.Service.Options
import NodeSidecar.Proofs.Service.Snapshots
import NodeSidecar.Proofs.Session.Answers
import NodeSidecar.Proofs.Session.Books
import NodeSidecar.Proofs.Session.Delivery
import NodeSidecar.Proofs.Session.Ending
import NodeSidecar.Proofs.Session.Events
import NodeSidecar.Proofs.Session.Handshake
import NodeSidecar.Proofs.Session.Loss
import NodeSidecar.Proofs.Session.News
import NodeSidecar.Proofs.Session.Passage
import NodeSidecar.Proofs.Session.Sharing
import NodeSidecar.Proofs.Session.Streams
import NodeSidecar.Proofs.Session.Table
import NodeSidecar.Proofs.Session.Wrapping
import NodeSidecar.Proofs.Text.Cutting
import NodeSidecar.Proofs.Text.Decimal
import NodeSidecar.Proofs.Text.Utf8
import NodeSidecar.Proofs.Token
import NodeSidecar.Proofs.Version.Display
import NodeSidecar.Proofs.Version.Order
import NodeSidecar.Proofs.Version.Qualifier
import NodeSidecar.Proofs.Version.Runs
import NodeSidecar.Proofs.Version.Spelling
import NodeSidecar.Proofs.Wire.ColumnType
import NodeSidecar.Proofs.Wire.Inet
import NodeSidecar.Proofs.Wire.Place
import NodeSidecar.Proofs.Wire.Reading
import NodeSidecar.Proofs.Wire.Request
import NodeSidecar.Proofs.Wire.ResultSet
import NodeSidecar.Proofs.Wire.Size
import NodeSidecar.Proofs.Wire.Stream
import NodeSidecar.Proofs.Wire.Truncation
import NodeSidecar.Rehearsal.Acts
import NodeSidecar.Rehearsal.Lifetime
import NodeSidecar.Rehearsal.Script
import NodeSidecar.Rehearsal.Side
import NodeSidecar.Rehearsal.Stage
import NodeSidecar.Roster
import NodeSidecar.Service.Demand
import NodeSidecar.Service.Plan
import NodeSidecar.Service.Server
import NodeSidecar.Session.Connection
import NodeSidecar.Session.Handshake
import NodeSidecar.Session.Holder
import NodeSidecar.Session.Settings
import NodeSidecar.Text.Blank
import NodeSidecar.Text.Decimal
import NodeSidecar.Text.Split
import NodeSidecar.Text.Utf8
import NodeSidecar.Version.Basic
import NodeSidecar.Version.Order
import NodeSidecar.Version.Parse
import NodeSidecar.Wire.Frame
import NodeSidecar.Wire.Read
import NodeSidecar.Wire.Rows
import NodeSidecar.Wire.Stream
import NodeSidecar.Yaml.Node
import NodeSidecar.Yaml.Place
import NodeSidecar.Yaml.Scalar
import NodeSidecar.Yaml.Token
