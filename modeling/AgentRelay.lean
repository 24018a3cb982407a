import AgentRelay.Agent
import AgentRelay.App
import AgentRelay.App.Json
import AgentRelay.Certificate
import AgentRelay.Certificate.Canonical
import AgentRelay.Certificate.Der
import AgentRelay.Certificate.Profile
import AgentRelay.Certificate.Time
import AgentRelay.Config
import AgentRelay.Connector
import AgentRelay.Credentials
import AgentRelay.Credentials.Fault
import AgentRelay.Credentials.Handshake
import AgentRelay.Decimal.Shortest
import AgentRelay.Digest
import AgentRelay.Endpoint
import AgentRelay.Error
import AgentRelay.ErrorChain
import AgentRelay.Event
import AgentRelay.Json.Decoder
import AgentRelay.Json.Error
import AgentRelay.Json.Printer
import AgentRelay.Json.Scan
import AgentRelay.Json.Value
import AgentRelay.Kea.Command
import AgentRelay.Kea.Response
import AgentRelay.Kea.Slot
import AgentRelay.Key.Container
import AgentRelay.Key.Curve
import AgentRelay.Key.Edwards
import AgentRelay.Key.Modular
import AgentRelay.Key.Rsa
import AgentRelay.Log
import AgentRelay.Metrics
import AgentRelay.Network
import AgentRelay.Ordered
import AgentRelay.Pem
import AgentRelay.Pem.Entry
import AgentRelay.Protocol
import AgentRelay.Protocol.Schema
import AgentRelay.Queue
import AgentRelay.Registry
import AgentRelay.Relay.Accounting
import AgentRelay.Relay.Basic
import AgentRelay.Relay.Concurrent
import AgentRelay.Relay.Kea
import AgentRelay.Relay.NamedStats
import AgentRelay.Relay.Operation
import AgentRelay.Relay.Rndc
import AgentRelay.Relay.State
import AgentRelay.Relay.Tail
import AgentRelay.Request
import AgentRelay.Request.Json
import AgentRelay.Rpc.Client
import AgentRelay.Rpc.Status
import AgentRelay.ServerName
import AgentRelay.Stats
import AgentRelay.Telemetry
import AgentRelay.Text.Base64
import AgentRelay.Text.Blank
import AgentRelay.Text.Hex
import AgentRelay.Text.Quoted
import AgentRelay.Text.Replace
import AgentRelay.Text.Unprintable
import AgentRelay.Text.Unsigned
import AgentRelay.Text.Utf8
import AgentRelay.Trace
import AgentRelay.Uri
import AgentRelay.Wire.Error
import AgentRelay.Wire.Key
import AgentRelay.Wire.Schema
import AgentRelay.Wire.Varint
import AgentRelay.Proofs.Certificate.PrivateKeys
import AgentRelay.Proofs.Config
import AgentRelay.Proofs.Connector.Admission
import AgentRelay.Proofs.Endpoint.Acceptance
import AgentRelay.Proofs.Endpoint.Host
import AgentRelay.Proofs.Endpoint.Identity
import AgentRelay.Proofs.ErrorChain
import AgentRelay.Proofs.Event
import AgentRelay.Proofs.Json.Elements
import AgentRelay.Proofs.Json.RoundTrip
import AgentRelay.Proofs.Kea.Slot
import AgentRelay.Proofs.Ordered
import AgentRelay.Proofs.Protocol.RoundTrip
import AgentRelay.Proofs.Queue.Answers
import AgentRelay.Proofs.Queue.Callers
import AgentRelay.Proofs.Queue.Conversation
import AgentRelay.Proofs.Queue.Independence
import AgentRelay.Proofs.Queue.Measurements
import AgentRelay.Proofs.Queue.Order
import AgentRelay.Proofs.Registry.Gauge
import AgentRelay.Proofs.Registry.Holdings
import AgentRelay.Proofs.Registry.Sharing
import AgentRelay.Proofs.Relay.AgentErrors
import AgentRelay.Proofs.Relay.Answers
import AgentRelay.Proofs.Relay.Bind9Channels
import AgentRelay.Proofs.Relay.Books
import AgentRelay.Proofs.Relay.Concurrency
import AgentRelay.Proofs.Relay.Connections
import AgentRelay.Proofs.Relay.DaemonErrors
import AgentRelay.Proofs.Relay.DaemonNews
import AgentRelay.Proofs.Relay.Discovery
import AgentRelay.Proofs.Relay.Interleaving
import AgentRelay.Proofs.Relay.KeaBatch
import AgentRelay.Proofs.Relay.KeaCounters
import AgentRelay.Proofs.Relay.Refusals
import AgentRelay.Proofs.Relay.ReplyParts
import AgentRelay.Proofs.Relay.Shutdown
import AgentRelay.Proofs.Relay.SlotKinds
import AgentRelay.Proofs.Relay.StatsFrame
import AgentRelay.Proofs.Stats
import AgentRelay.Proofs.Traffic
import AgentRelay.Proofs.Relay.Transitions
