import FleetControl.Command.Action
import FleetControl.Command.Course
import FleetControl.Command.Lifecycle
import FleetControl.Command.Record
import FleetControl.Command.Request
import FleetControl.Config.Environment
import FleetControl.Config.Load
import FleetControl.Config.Part
import FleetControl.Config.Reading
import FleetControl.Config.Settings
import FleetControl.Config.Tree
import FleetControl.Console.Offline
import FleetControl.Console.Startup
import FleetControl.Decimal.Layout
import FleetControl.Decimal.Reading
import FleetControl.Decimal.Shortest
import FleetControl.Device.Basic
import FleetControl.Device.Body
import FleetControl.Device.CallError
import FleetControl.Device.Client
import FleetControl.Device.Feed
import FleetControl.Device.Pipe
import FleetControl.Dispatch.Entry
import FleetControl.Dispatch.Lane
import FleetControl.Dispatch.Run
import FleetControl.Dispatch.Settings
import FleetControl.Dispatch.Shared
import FleetControl.Dispatch.Submission
import FleetControl.Dispatch.System
import FleetControl.Dispatch.Table
import FleetControl.Geo.Fence
import FleetControl.Geo.Motion
import FleetControl.Geo.Point
import FleetControl.Geo.Track
import FleetControl.Json.Basic
import FleetControl.Json.Draft
import FleetControl.Json.Measure
import FleetControl.Json.Shape
import FleetControl.Json.Tagged
import FleetControl.Json.Token
import FleetControl.Main
import FleetControl.Proofs.Command.Course
import FleetControl.Proofs.Config.Part
import FleetControl.Proofs.Config.Values
import FleetControl.Proofs.Device.Address
import FleetControl.Proofs.Device.Body
import FleetControl.Proofs.Device.Pipe
import FleetControl.Proofs.Dispatch.Accounting
import FleetControl.Proofs.Dispatch.Admission
import FleetControl.Proofs.Dispatch.Attempts
import FleetControl.Proofs.Dispatch.Changes
import FleetControl.Proofs.Dispatch.Custody
import FleetControl.Proofs.Dispatch.Endings
import FleetControl.Proofs.Dispatch.Finality
import FleetControl.Proofs.Dispatch.Isolation
import FleetControl.Proofs.Dispatch.Lookup
import FleetControl.Proofs.Dispatch.Order
import FleetControl.Proofs.Dispatch.Origin
import FleetControl.Proofs.Dispatch.Outcomes
import FleetControl.Proofs.Dispatch.Progress
import FleetControl.Proofs.Dispatch.Requests
import FleetControl.Proofs.Dispatch.Served
import FleetControl.Proofs.Dispatch.Single
import FleetControl.Proofs.Dispatch.Table
import FleetControl.Proofs.Dispatch.Transition
import FleetControl.Proofs.Dispatch.Withdrawal
import FleetControl.Proofs.Double.Order
import FleetControl.Proofs.Geo.Ranges
import FleetControl.Proofs.Geo.Ring
import FleetControl.Proofs.Geo.Spell
import FleetControl.Proofs.Geo.Stops
import FleetControl.Proofs.Geo.Track
import FleetControl.Proofs.Geo.Visits
import FleetControl.Proofs.Json.Given
import FleetControl.Proofs.Json.Parsing
import FleetControl.Proofs.Json.Record
import FleetControl.Proofs.Json.Rendering
import FleetControl.Proofs.Json.Tree
import FleetControl.Proofs.Json.Written
import FleetControl.Proofs.Precedence
import FleetControl.Proofs.Query.Assembly
import FleetControl.Proofs.Query.Form
import FleetControl.Proofs.Query.Parts
import FleetControl.Proofs.Query.Passing
import FleetControl.Proofs.Query.Pieces
import FleetControl.Proofs.Query.Placeholders
import FleetControl.Proofs.Query.Polygon
import FleetControl.Proofs.Query.Refusals
import FleetControl.Proofs.Query.Requirement
import FleetControl.Proofs.Query.Sending
import FleetControl.Proofs.Query.Shape
import FleetControl.Proofs.Query.Slots
import FleetControl.Proofs.Query.Stages
import FleetControl.Proofs.Query.Whitelist
import FleetControl.Proofs.Query.Words
import FleetControl.Proofs.Rehearsal.Feeding
import FleetControl.Proofs.Rehearsal.Replies
import FleetControl.Proofs.Rehearsal.Scheduling
import FleetControl.Proofs.Retry.Attempts
import FleetControl.Proofs.Retry.Backoff
import FleetControl.Proofs.Retry.Interruption
import FleetControl.Proofs.Telemetry.Blocks
import FleetControl.Proofs.Telemetry.Chunks
import FleetControl.Proofs.Telemetry.Drain
import FleetControl.Proofs.Telemetry.Draining
import FleetControl.Proofs.Telemetry.Framing
import FleetControl.Proofs.Telemetry.Lines
import FleetControl.Proofs.Telemetry.Oversized
import FleetControl.Proofs.Telemetry.Provenance
import FleetControl.Proofs.Telemetry.Steps
import FleetControl.Proofs.Text.Utf8
import FleetControl.Proofs.Time.Duration
import FleetControl.Proofs.Tool.Answers
import FleetControl.Proofs.Tool.Cancellation
import FleetControl.Proofs.Tool.Effects
import FleetControl.Proofs.Tool.Finality
import FleetControl.Proofs.Tool.Gating
import FleetControl.Proofs.Tool.History
import FleetControl.Proofs.Tool.Searching
import FleetControl.Proofs.Transit.Arrival
import FleetControl.Proofs.Transit.Fleet
import FleetControl.Proofs.Transit.Places
import FleetControl.Proofs.Transit.Queries
import FleetControl.Proofs.Transit.Stability
import FleetControl.Proofs.Web.Percent
import FleetControl.Proofs.Web.Segments
import FleetControl.Query.Assembly
import FleetControl.Query.Compile
import FleetControl.Query.Description
import FleetControl.Query.Geometry
import FleetControl.Query.Phrase
import FleetControl.Query.Result
import FleetControl.Query.Scan
import FleetControl.Query.Schema
import FleetControl.Query.Statement
import FleetControl.Rehearsal.Database
import FleetControl.Rehearsal.Deliveries
import FleetControl.Rehearsal.Lanes
import FleetControl.Rehearsal.Script
import FleetControl.Rehearsal.Session
import FleetControl.Rehearsal.Timed
import FleetControl.Retry.Clocked
import FleetControl.Retry.Policy
import FleetControl.Retry.Run
import FleetControl.Retry.Timetable
import FleetControl.Service.Error
import FleetControl.Store.Address
import FleetControl.Store.Cell
import FleetControl.Store.Error
import FleetControl.Store.Exchange
import FleetControl.Telemetry.Decoder
import FleetControl.Telemetry.Framing
import FleetControl.Telemetry.Loop
import FleetControl.Telemetry.Payload
import FleetControl.Telemetry.Stream
import FleetControl.Text.Hex
import FleetControl.Text.Identifier
import FleetControl.Text.Printable
import FleetControl.Text.Quoted
import FleetControl.Text.Ranges
import FleetControl.Text.Utf8
import FleetControl.Text.Whole
import FleetControl.Text.Word
import FleetControl.Time.Calendar
import FleetControl.Time.Duration
import FleetControl.Time.Instant
import FleetControl.Time.Reading
import FleetControl.Time.Span
import FleetControl.Toml.Document
import FleetControl.Toml.Scalar
import FleetControl.Toml.Text
import FleetControl.Toml.Value
import FleetControl.Tool.Call
import FleetControl.Tool.Handling
import FleetControl.Tool.Response
import FleetControl.Tool.Run
import FleetControl.Tool.Service
import FleetControl.Transit.Leaves
import FleetControl.Transit.Shape
import FleetControl.Web.Base64
import FleetControl.Web.Host
import FleetControl.Web.Parameters
import FleetControl.Web.Percent
import FleetControl.Web.Url
