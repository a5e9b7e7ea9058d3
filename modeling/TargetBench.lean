import TargetBench.Character.Composition
import TargetBench.Character.Direction
import TargetBench.Character.Joining
import TargetBench.Character.Letter
import TargetBench.Character.Mark
import TargetBench.Character.Normal
import TargetBench.Character.Order
import TargetBench.Character.Range
import TargetBench.Character.Visible
import TargetBench.Component.Class
import TargetBench.Component.Interface
import TargetBench.Configuration.Basic
import TargetBench.Configuration.File
import TargetBench.Configuration.Flag
import TargetBench.Configuration.Layers
import TargetBench.Configuration.Mode
import TargetBench.Configuration.Variable
import TargetBench.Daemon.Agents
import TargetBench.Daemon.Bootstrap
import TargetBench.Daemon.Connection
import TargetBench.Daemon.Launch
import TargetBench.Domain.Label
import TargetBench.Domain.Mapping
import TargetBench.Domain.Name
import TargetBench.Domain.Permission
import TargetBench.Domain.Punycode
import TargetBench.Domain.Replacement
import TargetBench.Driver.Argument
import TargetBench.Driver.Channel
import TargetBench.Driver.Enumerated
import TargetBench.Driver.Registry
import TargetBench.Driver.Table
import TargetBench.Driver.Verification
import TargetBench.Endpoint.Basic
import TargetBench.Endpoint.Host
import TargetBench.Endpoint.Listener
import TargetBench.Endpoint.Preparation
import TargetBench.Endpoint.Url
import TargetBench.FileSystem.Basic
import TargetBench.FileSystem.Confined
import TargetBench.FileSystem.Directory
import TargetBench.FileSystem.Path
import TargetBench.Json.Basic
import TargetBench.Json.Number
import TargetBench.Json.Overlay
import TargetBench.Json.Printer
import TargetBench.Json.Reader
import TargetBench.Json.Tagged
import TargetBench.Json.Token
import TargetBench.Json.Wire
import TargetBench.Loopback.Controller
import TargetBench.Loopback.Enumerations
import TargetBench.Message.Call
import TargetBench.Message.Command
import TargetBench.Message.Notification
import TargetBench.Message.Response
import TargetBench.Number.Binary
import TargetBench.Number.Bounded
import TargetBench.Number.Decimal
import TargetBench.Number.Hexadecimal
import TargetBench.Number.Layout
import TargetBench.Number.Numeral
import TargetBench.Number.Shortest
import TargetBench.Pattern.Basic
import TargetBench.Pattern.Bracket
import TargetBench.Pattern.Escape
import TargetBench.Pattern.Reader
import TargetBench.Pattern.Support
import TargetBench.Proofs.Driver.Acceptance
import TargetBench.Proofs.Loopback.Total
import TargetBench.Proofs.Number.Distinct
import TargetBench.Proofs.Number.Interval
import TargetBench.Proofs.Number.Magnitude
import TargetBench.Proofs.Number.Reading
import TargetBench.Proofs.Number.Row
import TargetBench.Proofs.Session.Answers
import TargetBench.Proofs.Session.Change
import TargetBench.Proofs.Session.Identity
import TargetBench.Proofs.Session.Order
import TargetBench.Proofs.Session.Refusal
import TargetBench.Proofs.Specification.Loading
import TargetBench.Proofs.Specification.Match
import TargetBench.Proofs.Text.Trim
import TargetBench.Session.Dispatch
import TargetBench.Session.Event
import TargetBench.Session.Frame
import TargetBench.Session.Server
import TargetBench.Specification.Builder
import TargetBench.Specification.Lookup
import TargetBench.Specification.Query
import TargetBench.Telemetry.Filter
import TargetBench.Telemetry.Record
import TargetBench.Text.Blank
import TargetBench.Text.Complaint
import TargetBench.Text.Cut
import TargetBench.Text.Percent
import TargetBench.Text.Utf8
import TargetBench.Toml.Basic
import TargetBench.Toml.Edition
import TargetBench.Toml.Moment
import TargetBench.Toml.Quoted
import TargetBench.Toml.Reader
import TargetBench.Toml.Scalar
import TargetBench.Value.Basic
import TargetBench.Value.Descriptor
import TargetBench.Value.Scalar
import TargetBench.Value.Wire
import TargetBench.Main
import TargetBench.Proofs.Session.History
import TargetBench.Proofs.Collection.Traversal
import TargetBench.Proofs.Loopback.Device
import TargetBench.Proofs.Json.Lexing
import TargetBench.Proofs.Json.Reading
import TargetBench.Proofs.Json.Restoring
import TargetBench.Proofs.Value.Restoring
import TargetBench.Proofs.Message.RoundTrip
import TargetBench.Proofs.Session.Framing
import TargetBench.Proofs.Daemon.Connection
import TargetBench.Proofs.Daemon.Sharing
import TargetBench.Proofs.Collection.Keyed
import TargetBench.Proofs.Json.Spelling
import TargetBench.Proofs.Session.Extension
import TargetBench.Proofs.Driver.Comparison
import TargetBench.Proofs.Loopback.Comparison
import TargetBench.Proofs.Session.Expectation
import TargetBench.Proofs.Driver.Registration
import TargetBench.Proofs.Loopback.Delivery
import TargetBench.Proofs.Session.Reporting
import TargetBench.Proofs.FileSystem.Component
import TargetBench.Proofs.Specification.Directory
import TargetBench.Proofs.FileSystem.Walk
import TargetBench.Proofs.FileSystem.Ending
import TargetBench.Proofs.FileSystem.Directory
import TargetBench.Proofs.Endpoint.Listening
import TargetBench.Proofs.Daemon.Footprint
import TargetBench.Proofs.Session.Stream
import TargetBench.Proofs.Endpoint.Occupancy
import TargetBench.Proofs.Text.Bytes
import TargetBench.Proofs.Endpoint.Segment
import TargetBench.Proofs.Endpoint.Rereading
import TargetBench.Proofs.FileSystem.Listing
import TargetBench.Proofs.Specification.Choice
import TargetBench.Proofs.Session.Reloading
import TargetBench.Proofs.Driver.Calling
import TargetBench.Proofs.Driver.Conformance
import TargetBench.Proofs.Driver.Difference
import TargetBench.Proofs.Driver.Packing
import TargetBench.Proofs.Specification.Rendering
import TargetBench.Proofs.Message.Spelling
import TargetBench.Proofs.Message.Reencoding
import TargetBench.Proofs.Json.Margin
import TargetBench.Proofs.Session.Lines
import TargetBench.Proofs.Configuration.Spelling
import TargetBench.Proofs.FileSystem.Parent
import TargetBench.Proofs.FileSystem.Making
import TargetBench.Proofs.Daemon.Preparing
