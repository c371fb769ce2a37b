import InputSharing.Address.Basic
import InputSharing.Address.Reader
import InputSharing.Channel.Registry
import InputSharing.Channel.Scripted
import InputSharing.Channel.Transport
import InputSharing.Command
import InputSharing.CommandLine
import InputSharing.Config.Basic
import InputSharing.Config.Document
import InputSharing.Config.Storage
import InputSharing.Digits
import InputSharing.Dispatch
import InputSharing.Event
import InputSharing.Frame.Bytes
import InputSharing.Frame.Codec
import InputSharing.Frame.Error
import InputSharing.Frame.Header
import InputSharing.Frame.Payload
import InputSharing.Hardware.Collector
import InputSharing.Hardware.Lax
import InputSharing.Hardware.Simulated
import InputSharing.Hub
import InputSharing.Identity
import InputSharing.Json.Magnitude
import InputSharing.Json.Reader
import InputSharing.Json.Token
import InputSharing.Json.Value
import InputSharing.Json.Writer
import InputSharing.Main
import InputSharing.Message
import InputSharing.Network.Basic
import InputSharing.Network.Load
import InputSharing.Network.Reaction
import InputSharing.Network.Schedule
import InputSharing.Network.Walkthrough
import InputSharing.Pending
import InputSharing.Proofs.Agreement
import InputSharing.Proofs.Backlog
import InputSharing.Proofs.Bench
import InputSharing.Proofs.Chatter
import InputSharing.Proofs.Detour
import InputSharing.Proofs.Digits
import InputSharing.Proofs.Frame.Decoding
import InputSharing.Proofs.Frame.Framing
import InputSharing.Proofs.Frame.Grammar
import InputSharing.Proofs.Frame.Payload
import InputSharing.Proofs.Frame.Stream
import InputSharing.Proofs.Frame.Written
import InputSharing.Proofs.Hub
import InputSharing.Proofs.Hub.Annals
import InputSharing.Proofs.Hub.Carriage
import InputSharing.Proofs.Indexes
import InputSharing.Proofs.Json.Grammar
import InputSharing.Proofs.Json.Reading
import InputSharing.Proofs.Json.RoundTrip
import InputSharing.Proofs.Json.Scan
import InputSharing.Proofs.Marks
import InputSharing.Proofs.Network.Accounts
import InputSharing.Proofs.Network.Agreement
import InputSharing.Proofs.Network.Answered
import InputSharing.Proofs.Network.Arrivals
import InputSharing.Proofs.Network.Balance
import InputSharing.Proofs.Network.Channels
import InputSharing.Proofs.Network.Chronicle
import InputSharing.Proofs.Network.Concord
import InputSharing.Proofs.Network.Delivery
import InputSharing.Proofs.Network.Depiction
import InputSharing.Proofs.Network.Effort
import InputSharing.Proofs.Network.Encoding
import InputSharing.Proofs.Network.Housing
import InputSharing.Proofs.Network.Lane
import InputSharing.Proofs.Network.Lanes
import InputSharing.Proofs.Network.Minutes
import InputSharing.Proofs.Network.Moves
import InputSharing.Proofs.Network.Passing
import InputSharing.Proofs.Network.Reactions
import InputSharing.Proofs.Network.Rest
import InputSharing.Proofs.Network.Scene
import InputSharing.Proofs.Network.SinkConcord
import InputSharing.Proofs.Network.SinkDelivery
import InputSharing.Proofs.Network.SinkLanes
import InputSharing.Proofs.Network.SinkReactions
import InputSharing.Proofs.Network.SinkStage
import InputSharing.Proofs.Network.SourceCalls
import InputSharing.Proofs.Network.SourceConcord
import InputSharing.Proofs.Network.SourceDelivery
import InputSharing.Proofs.Network.SourceLanes
import InputSharing.Proofs.Network.SourceReactions
import InputSharing.Proofs.Network.SourceStage
import InputSharing.Proofs.Network.SourceSteps
import InputSharing.Proofs.Network.Stage
import InputSharing.Proofs.Network.Start
import InputSharing.Proofs.Network.Tickets
import InputSharing.Proofs.Network.Trace
import InputSharing.Proofs.Network.Traffic
import InputSharing.Proofs.Network.View
import InputSharing.Proofs.Network.Wiring
import InputSharing.Proofs.Numbering
import InputSharing.Proofs.Observation
import InputSharing.Proofs.Pending
import InputSharing.Proofs.Registry
import InputSharing.Proofs.Sink.Backlog
import InputSharing.Proofs.Sink.Batches
import InputSharing.Proofs.Sink.Batching
import InputSharing.Proofs.Sink.Books
import InputSharing.Proofs.Sink.Commuting
import InputSharing.Proofs.Sink.Departing
import InputSharing.Proofs.Sink.Endings
import InputSharing.Proofs.Sink.Frames
import InputSharing.Proofs.Sink.History
import InputSharing.Proofs.Sink.Keys
import InputSharing.Proofs.Sink.Listeners
import InputSharing.Proofs.Sink.Outlet
import InputSharing.Proofs.Sink.Ownership
import InputSharing.Proofs.Sink.Parts
import InputSharing.Proofs.Sink.Requests
import InputSharing.Proofs.Sink.Returning
import InputSharing.Proofs.Sink.Settling
import InputSharing.Proofs.Sink.Starting
import InputSharing.Proofs.Sink.Stopping
import InputSharing.Proofs.Sink.StuckKeys
import InputSharing.Proofs.Source.Answering
import InputSharing.Proofs.Source.Backlog
import InputSharing.Proofs.Source.Chatter
import InputSharing.Proofs.Source.Closing
import InputSharing.Proofs.Source.Conservation
import InputSharing.Proofs.Source.Docket
import InputSharing.Proofs.Source.Grounding
import InputSharing.Proofs.Source.History
import InputSharing.Proofs.Source.Isolation
import InputSharing.Proofs.Source.Ledger
import InputSharing.Proofs.Source.Origins
import InputSharing.Proofs.Source.Parts
import InputSharing.Proofs.Source.Passage
import InputSharing.Proofs.Source.Quiet
import InputSharing.Proofs.Source.Relaying
import InputSharing.Proofs.Source.Residue
import InputSharing.Proofs.Source.Tickets
import InputSharing.Proofs.Source.Ties
import InputSharing.Proofs.Source.Unasked
import InputSharing.Proofs.Table
import InputSharing.Proofs.Tracker
import InputSharing.Proofs.TypeMask
import InputSharing.Proofs.Waiting
import InputSharing.Proofs.Wire.Encoded
import InputSharing.Proofs.Wire.Piece
import InputSharing.Proofs.Wire.Receiving
import InputSharing.Relay
import InputSharing.Sequence
import InputSharing.Sharing
import InputSharing.SharingError
import InputSharing.Sink.Inbound
import InputSharing.Sink.Turn
import InputSharing.Source.Call
import InputSharing.Source.Inbound
import InputSharing.Source.Turn
import InputSharing.Toml.Json
import InputSharing.Toml.Moment
import InputSharing.Toml.Number
import InputSharing.Toml.Quoted
import InputSharing.Toml.Reader
import InputSharing.Toml.Text
import InputSharing.Toml.Value
import InputSharing.Toml.Writer
import InputSharing.TypeMask
import InputSharing.Wire.Endpoint
import InputSharing.Wire.Piece
import InputSharing.Wire.Receiver
