import ListWatch.Backoff
import ListWatch.Client.Answer
import ListWatch.Client.Basic
import ListWatch.Client.Collection
import ListWatch.Client.Credential
import ListWatch.Client.Error
import ListWatch.Client.Exchange
import ListWatch.Client.Watch
import ListWatch.Decimal.Scaled
import ListWatch.Decimal.Shortest
import ListWatch.Event.Change
import ListWatch.Event.Kind
import ListWatch.Event.Lines
import ListWatch.Event.Notice
import ListWatch.Failure.Alert
import ListWatch.Failure.Basic
import ListWatch.Failure.Rejection
import ListWatch.Json.Check
import ListWatch.Json.Fault
import ListWatch.Json.Form
import ListWatch.Json.Input
import ListWatch.Json.Number
import ListWatch.Json.Reader
import ListWatch.Json.Render
import ListWatch.Json.Schema
import ListWatch.Json.Skim
import ListWatch.Json.Token
import ListWatch.Json.Value
import ListWatch.Log
import ListWatch.Main
import ListWatch.Observer
import ListWatch.Options
import ListWatch.Outlet.Basic
import ListWatch.Outlet.EventBuffer
import ListWatch.Outlet.Latest
import ListWatch.Phase
import ListWatch.Rehearsal.Conversation
import ListWatch.Rehearsal.Observed
import ListWatch.Rehearsal.Script
import ListWatch.Rehearsal.World
import ListWatch.Replica
import ListWatch.Resource.Basic
import ListWatch.Resource.Device
import ListWatch.Resource.Family
import ListWatch.Resource.List
import ListWatch.Resource.Metadata
import ListWatch.Resource.Sealed
import ListWatch.Resource.Untyped
import ListWatch.Settings
import ListWatch.Stores
import ListWatch.Synchronizer.Basic
import ListWatch.Synchronizer.Control
import ListWatch.Synchronizer.Protocol
import ListWatch.Text.Blank
import ListWatch.Text.Composition
import ListWatch.Text.Direction
import ListWatch.Text.Folding
import ListWatch.Text.Joining
import ListWatch.Text.Mark
import ListWatch.Text.Parts
import ListWatch.Text.Printable
import ListWatch.Text.Quoted
import ListWatch.Text.Ranges
import ListWatch.Text.Utf8
import ListWatch.Url.Basic
import ListWatch.Url.Host
import ListWatch.Url.Label
import ListWatch.Url.Parse
import ListWatch.Url.Percent
import ListWatch.Url.Punycode
import ListWatch.Proofs.Event.Framing
import ListWatch.Proofs.Replica.Keys
import ListWatch.Proofs.Synchronizer.Turn
import ListWatch.Proofs.Synchronizer.Passage
import ListWatch.Proofs.Synchronizer.Life
import ListWatch.Proofs.Replica.History
import ListWatch.Proofs.Synchronizer.Faithful
import ListWatch.Proofs.Synchronizer.Published
import ListWatch.Proofs.Synchronizer.Moves
import ListWatch.Proofs.Synchronizer.Grammar
import ListWatch.Proofs.Synchronizer.Mirror
import ListWatch.Proofs.Client.Delivery
import ListWatch.Proofs.Client.Cancellation
import ListWatch.Proofs.Synchronizer.Calls
import ListWatch.Proofs.Stores.Registry
import ListWatch.Proofs.Synchronizer.Alternation
import ListWatch.Proofs.Replica.Distinct
import ListWatch.Proofs.Replica.Commuting
import ListWatch.Proofs.Replica.Ordered
import ListWatch.Proofs.Text.Utf8
import ListWatch.Proofs.Url.Percent
import ListWatch.Proofs.Url.Segments
import ListWatch.Proofs.Url.Punycode
import ListWatch.Proofs.Url.Domain
import ListWatch.Proofs.Client.Redaction
import ListWatch.Proofs.Client.Target
import ListWatch.Proofs.Synchronizer.Requests
import ListWatch.Proofs.Event.Noise
import ListWatch.Proofs.Event.Pushing
import ListWatch.Proofs.Json.Reading
import ListWatch.Proofs.Json.Tokens
import ListWatch.Proofs.Json.Members
import ListWatch.Proofs.Json.Skimming
import ListWatch.Proofs.Json.Records
import ListWatch.Proofs.Event.Envelope
import ListWatch.Proofs.Synchronizer.Outward
import ListWatch.Proofs.Synchronizer.Alongside
import ListWatch.Proofs.Synchronizer.Quiescence
import ListWatch.Proofs.Synchronizer.Restart
import ListWatch.Proofs.Synchronizer.Redaction
import ListWatch.Proofs.Backoff
import ListWatch.Proofs.Synchronizer.Delays
import ListWatch.Proofs.Client.Paths
import ListWatch.Proofs.Synchronizer.Sending
import ListWatch.Proofs.Session
import ListWatch.Proofs.Stores.Sharing
import ListWatch.Proofs.Outlet.Accounting
import ListWatch.Proofs.Json.Agreement
import ListWatch.Proofs.Json.Documents
import ListWatch.Proofs.Json.Normal
import ListWatch.Proofs.Resource.Decoding
import ListWatch.Proofs.Stores.Binding
import ListWatch.Proofs.Json.Closed
import ListWatch.Proofs.Payload
import ListWatch.Proofs.Settings.Values
import ListWatch.Proofs.Settings.Validation
import ListWatch.Proofs.Chain
import ListWatch.Proofs.Client.Obstacles
import ListWatch.Proofs.Settings.Usable
import ListWatch.Proofs.Client.Answers
import ListWatch.Proofs.Client.Outcome
