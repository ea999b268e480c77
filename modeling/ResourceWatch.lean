import ResourceWatch.Text
import ResourceWatch.Text.Blank
import ResourceWatch.Text.Utf8
import ResourceWatch.Text.PointTable
import ResourceWatch.Text.CombiningClass
import ResourceWatch.Text.Decomposition
import ResourceWatch.Text.Composition
import ResourceWatch.Text.Direction
import ResourceWatch.Text.Joining
import ResourceWatch.Text.Mark
import ResourceWatch.Number
import ResourceWatch.Number.Decimal
import ResourceWatch.Number.Shortest
import ResourceWatch.Json
import ResourceWatch.Json.Printer
import ResourceWatch.Json.Reader
import ResourceWatch.Schema
import ResourceWatch.Url.Percent
import ResourceWatch.Url.Punycode
import ResourceWatch.Url.Domain.Mapping
import ResourceWatch.Url.Domain
import ResourceWatch.Url.Host
import ResourceWatch.Url
import ResourceWatch.Url.Query
import ResourceWatch.Config
import ResourceWatch.Log.Value
import ResourceWatch.Api.Status
import ResourceWatch.Api.Error
import ResourceWatch.Failure
import ResourceWatch.Lines
import ResourceWatch.Watch.Event
import ResourceWatch.Watch.Address
import ResourceWatch.Client.Headers
import ResourceWatch.Client
import ResourceWatch.Clock
import ResourceWatch.Log.Record
import ResourceWatch.Log.Date
import ResourceWatch.Log.Sink
import ResourceWatch.Log.Logging
import ResourceWatch.Server
import ResourceWatch.Outcome
import ResourceWatch.Client.Exchange
import ResourceWatch.Client.Call
import ResourceWatch.Session
import ResourceWatch.Session.Plan
import ResourceWatch.Client.Stream
import ResourceWatch.Watch.Reading
import ResourceWatch.Watch.Continuous
import ResourceWatch.Reactor.Identity
import ResourceWatch.Reactor.Memo
import ResourceWatch.Reactor.Throttler
import ResourceWatch.Reactor.Throttling
import ResourceWatch.Reactor.Queue
import ResourceWatch.Reactor.Attempt
import ResourceWatch.Reactor.Registry
import ResourceWatch.Reactor.Processing
import ResourceWatch.Reactor
import ResourceWatch.Proofs.Clock
import ResourceWatch.Proofs.Decoding
import ResourceWatch.Proofs.Framing
import ResourceWatch.Proofs.Buffering
import ResourceWatch.Proofs.Number.Rounding
import ResourceWatch.Proofs.Encoding
import ResourceWatch.Proofs.Client.Waiting
import ResourceWatch.Proofs.Client.Reading
import ResourceWatch.Proofs.Client.Records
import ResourceWatch.Proofs.Client.Bounding
import ResourceWatch.Proofs.Number.Timers
import ResourceWatch.Proofs.Client.Limits
import ResourceWatch.Proofs.Client.Points
import ResourceWatch.Proofs.Client.Stopping
import ResourceWatch.Proofs.Client.Expiry
import ResourceWatch.Proofs.Client.Release
import ResourceWatch.Proofs.Client.Consumers
import ResourceWatch.Proofs.Client.Delivery
import ResourceWatch.Proofs.Url.Appending
import ResourceWatch.Proofs.Url.RoundTrip
import ResourceWatch.Proofs.Watch.Changes
import ResourceWatch.Proofs.Watch.Legs
import ResourceWatch.Proofs.Watch.Cycles
import ResourceWatch.Proofs.Watch.Spelling
import ResourceWatch.Proofs.Watch.Log
import ResourceWatch.Proofs.Watch.Stopping
import ResourceWatch.Proofs.Reactor.Steps
import ResourceWatch.Proofs.Reactor.Order
import ResourceWatch.Proofs.Reactor.Handling
import ResourceWatch.Proofs.Number.Numerals
import ResourceWatch.Proofs.Json.Printing
import ResourceWatch.Proofs.Json.Objects
import ResourceWatch.Proofs.Json.RoundTrip
import ResourceWatch.Proofs.Ndjson
import ResourceWatch.Proofs.Reactor.Slots
import ResourceWatch.Proofs.Reactor.Recreation
import ResourceWatch.Proofs.Reactor.Interleaving
import ResourceWatch.Proofs.Reactor.Isolation
import ResourceWatch.Proofs.Reactor.Registry
import ResourceWatch.Proofs.Reactor.Moves
import ResourceWatch.Proofs.Reactor.Receiving
import ResourceWatch.Proofs.Reactor.Books
import ResourceWatch.Proofs.Reactor.Turns
import ResourceWatch.Proofs.Reactor.Stopping
import ResourceWatch.Proofs.Reactor.Completion
import ResourceWatch.Proofs.Watch.Release
import ResourceWatch.Proofs.Reactor.Passes
import ResourceWatch.Proofs.Reactor.Refusals
import ResourceWatch.Proofs.Reactor.Assignment
import ResourceWatch.Proofs.Number.Integers
import ResourceWatch.Proofs.Reactor.Attempts
import ResourceWatch.Proofs.Reactor.Throttling
import ResourceWatch.Proofs.Status
import ResourceWatch.Proofs.Client.Breaking
import ResourceWatch.Proofs.Watch.Errors
import ResourceWatch.Proofs.Number.Delays
import ResourceWatch.Proofs.Config
import ResourceWatch.Proofs.Client.Timeouts
import ResourceWatch.Proofs.Reactor.Pacing
import ResourceWatch.Proofs.Durations
import ResourceWatch.Proofs.Client.Headers
import ResourceWatch.Proofs.Client.Answers
import ResourceWatch.Proofs.WellFormed
import ResourceWatch.Proofs.Watch.Parameters
import ResourceWatch.Proofs.Url.Segments
import ResourceWatch.Proofs.Url.Bases
import ResourceWatch.Proofs.Url.Joins
import ResourceWatch.Proofs.Client.Server
import ResourceWatch.Proofs.Reactor.Queueing
import ResourceWatch.Proofs.Url.Stripping
import ResourceWatch.Proofs.Loading
import ResourceWatch.Proofs.Log.Production
import ResourceWatch.Proofs.Log.Levels
import ResourceWatch.Proofs.Log.Streams
import ResourceWatch.Proofs.Log.Handling
import ResourceWatch.Proofs.Log.Operations
