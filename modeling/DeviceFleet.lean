import DeviceFleet.Agent.Apps
import DeviceFleet.Agent.Executor
import DeviceFleet.Agent.Fingerprint
import DeviceFleet.Bench.Agent
import DeviceFleet.Bench.Answer
import DeviceFleet.Bench.Basic
import DeviceFleet.Bench.Cache
import DeviceFleet.Bench.Calendar
import DeviceFleet.Bench.Canonical
import DeviceFleet.Bench.Config
import DeviceFleet.Bench.Correlator
import DeviceFleet.Bench.Engine
import DeviceFleet.Bench.Envelope
import DeviceFleet.Bench.Events
import DeviceFleet.Bench.Frames
import DeviceFleet.Bench.Jobs
import DeviceFleet.Bench.Operations
import DeviceFleet.Bench.Progress
import DeviceFleet.Bench.Protocol
import DeviceFleet.Bench.Wire
import DeviceFleet.Cache.Lookup
import DeviceFleet.Calendar.Date
import DeviceFleet.Collections.SortedMap
import DeviceFleet.Command.Correlator
import DeviceFleet.Command.Dispatch
import DeviceFleet.Command.Operation
import DeviceFleet.Command.OperationStore
import DeviceFleet.Config.Server
import DeviceFleet.Config.Tree
import DeviceFleet.Control.Line
import DeviceFleet.Control.LineReader
import DeviceFleet.Control.Response
import DeviceFleet.Conversion.Basic
import DeviceFleet.Conversion.Request
import DeviceFleet.Conversion.Response
import DeviceFleet.Datastore.Index
import DeviceFleet.Engine.Cluster
import DeviceFleet.Engine.Coordinator
import DeviceFleet.Engine.Dispatch
import DeviceFleet.Engine.LineServer
import DeviceFleet.Engine.Router
import DeviceFleet.Engine.Run
import DeviceFleet.Events.Error
import DeviceFleet.Events.Event
import DeviceFleet.Events.Housekeeping
import DeviceFleet.Events.Recorder
import DeviceFleet.Events.Store
import DeviceFleet.Fleet.Scripted
import DeviceFleet.Job.Codec
import DeviceFleet.Job.Driver
import DeviceFleet.Job.Error
import DeviceFleet.Job.Model
import DeviceFleet.Job.Progress
import DeviceFleet.Job.Stores
import DeviceFleet.Json.Number
import DeviceFleet.Json.Print
import DeviceFleet.Json.Read
import DeviceFleet.Json.Value
import DeviceFleet.Protocol.Canonical
import DeviceFleet.Protocol.Message
import DeviceFleet.Protocol.Method
import DeviceFleet.Protocol.Uuid
import DeviceFleet.Session.Connection
import DeviceFleet.Session.Registry
import DeviceFleet.Store.Error
import DeviceFleet.Text.Binary64
import DeviceFleet.Text.Blank
import DeviceFleet.Text.Bytes
import DeviceFleet.Text.Decimal
import DeviceFleet.Text.Lowercase
import DeviceFleet.Text.Printable
import DeviceFleet.Text.Quoted
import DeviceFleet.Text.Ranges
import DeviceFleet.Wire.Decode
import DeviceFleet.Wire.Encode
import DeviceFleet.Wire.Frame
import DeviceFleet.Wire.Varint
import DeviceFleet.Proofs.Correlator.Steps
import DeviceFleet.Proofs.Correlator.AtMostOnce
import DeviceFleet.Proofs.Dispatch.Settle
import DeviceFleet.Proofs.Dispatch.Outcome
import DeviceFleet.Proofs.Dispatch.LateReply
import DeviceFleet.Proofs.Events.Steps
import DeviceFleet.Proofs.Events.StoreLaws
import DeviceFleet.Proofs.Events.RecordOnce
import DeviceFleet.Proofs.Dispatch.Spent
import DeviceFleet.Proofs.Jobs.Targets
import DeviceFleet.Proofs.Jobs.CommandOnce
import DeviceFleet.Proofs.Jobs.Passes
import DeviceFleet.Proofs.Jobs.Drive
import DeviceFleet.Proofs.Jobs.Executions
import DeviceFleet.Proofs.Wire.Framing
import DeviceFleet.Proofs.Wire.Consumption
import DeviceFleet.Proofs.Conversion.Acceptance
import DeviceFleet.Proofs.Dispatch.Failures
import DeviceFleet.Proofs.Jobs.Refusals
import DeviceFleet.Proofs.Protocol.UuidText
import DeviceFleet.Proofs.Conversion.RoundTrip
import DeviceFleet.Proofs.Jobs.Lifecycle
import DeviceFleet.Proofs.Jobs.Coherence
import DeviceFleet.Proofs.Jobs.Interleaving
import DeviceFleet.Proofs.Jobs.Moves
import DeviceFleet.Proofs.Operations.Lifecycle
import DeviceFleet.Proofs.Agent.Replies
import DeviceFleet.Proofs.Jobs.Participants
import DeviceFleet.Proofs.Jobs.Progression
import DeviceFleet.Proofs.Control.Serving
import DeviceFleet.Proofs.Jobs.Cleaning
import DeviceFleet.Proofs.Events.Pass
import DeviceFleet.Proofs.Events.Numbering
import DeviceFleet.Proofs.Events.Hub
import DeviceFleet.Proofs.Events.ExactlyOnce
import DeviceFleet.Proofs.Calendar.DayNumbers
import DeviceFleet.Proofs.Calendar.Weeks
import DeviceFleet.Proofs.Config.Timeouts
import DeviceFleet.Proofs.Cache.Interleaving
import DeviceFleet.Proofs.Protocol.Topics
import DeviceFleet.Proofs.Agent.State
import DeviceFleet.Proofs.Session.Newest
