import Conduit.Text.Blank
import Conduit.Text.Utf8
import Conduit.Text.Natural
import Conduit.Number.Notation
import Conduit.Number.Reading
import Conduit.Json.Printer
import Conduit.Json.Reader
import Conduit.Json.Record
import Conduit.Row.Json
import Conduit.Schema.Column
import Conduit.Time.Duration
import Conduit.Codec.Basic
import Conduit.Data.Table
import Conduit.Url.Basic
import Conduit.Connect.Connector
import Conduit.Connect.Definition
import Conduit.Time.Await
import Conduit.Data.Identifier
import Conduit.Worker.Scripted
import Conduit.Row.Change
import Conduit.Row.Tagged
import Conduit.Stream.Launch
import Conduit.Stream.Scripted
import Conduit.Main
import Conduit.Proofs.Stream.CommitOrder
import Conduit.Proofs.Stream.Ledger
import Conduit.Proofs.Broker.Position
import Conduit.Proofs.Stream.Restart
import Conduit.Proofs.Text.Utf8
import Conduit.Proofs.Number.Numeral
import Conduit.Proofs.Row.RoundTrip
import Conduit.Proofs.Row.Rewriting
import Conduit.Proofs.Worker.Failover
import Conduit.Proofs.Url.Percent
import Conduit.Proofs.Url.Path
import Conduit.Proofs.Worker.Addressing
import Conduit.Proofs.Broker.Polling
import Conduit.Proofs.Broker.Reading
import Conduit.Proofs.Text.Listed
import Conduit.Proofs.Schema.Column
import Conduit.Proofs.Connect.TaskConfig
import Conduit.Proofs.Stream.Passage
import Conduit.Proofs.Stream.Reference
import Conduit.Proofs.Stream.PartitionTime
import Conduit.Proofs.Stream.Tending
import Conduit.Proofs.Connect.Normal
import Conduit.Proofs.Connect.Definition
import Conduit.Proofs.Broker.Dialogue
import Conduit.Proofs.Broker.Topics
import Conduit.Proofs.Broker.Delivery
import Conduit.Proofs.Broker.Joining
import Conduit.Proofs.Command.Consume
import Conduit.Proofs.Broker.Sending
import Conduit.Proofs.Stream.Counters
import Conduit.Proofs.Stream.Handle
import Conduit.Proofs.Stream.Stopping
import Conduit.Proofs.Data.Latest
import Conduit.Proofs.Connect.TaskAssembly
import Conduit.Proofs.Connect.Precedence
import Conduit.Proofs.Text.Natural
import Conduit.Proofs.Time.Duration
import Conduit.Proofs.Time.Await
import Conduit.Proofs.Broker.Commits
import Conduit.Proofs.Stream.Plan
import Conduit.Proofs.Broker.Writing
import Conduit.Proofs.Connect.LastStart
import Conduit.Proofs.Text.WellFormed
import Conduit.Proofs.Codec.Bijection
import Conduit.Proofs.Json.Grammar
import Conduit.Proofs.Json.Record
import Conduit.Proofs.Row.Loosening
import Conduit.Proofs.Worker.Refusal
import Conduit.Proofs.Url.Authority
import Conduit.Proofs.Worker.Endpoints
import Conduit.Proofs.Url.Host
