import FrameStream.Envelope.Dump.Lemmas
import FrameStream.Location.Path.Lemmas
import FrameStream.Main
import FrameStream.Message.Frame.Lemmas
import FrameStream.Proofs.Config.Magnitudes
import FrameStream.Proofs.Envelope.Dumps
import FrameStream.Proofs.Envelope.Truncation
import FrameStream.Proofs.Json.Continuations
import FrameStream.Proofs.Json.Documents
import FrameStream.Proofs.Json.Fields
import FrameStream.Proofs.Json.Literals
import FrameStream.Proofs.Json.Streams
import FrameStream.Proofs.Json.Strings
import FrameStream.Proofs.Json.Values
import FrameStream.Proofs.Location.Creation
import FrameStream.Proofs.Location.Sidecars
import FrameStream.Proofs.Message.Attributes
import FrameStream.Proofs.Message.Contents
import FrameStream.Proofs.Message.Kinds
import FrameStream.Proofs.Message.Payloads
import FrameStream.Proofs.Message.RoundTrip
import FrameStream.Proofs.Number.Integers
import FrameStream.Proofs.Number.Rounding
import FrameStream.Proofs.Pipeline.Feeding
import FrameStream.Proofs.Pipeline.Feeds
import FrameStream.Proofs.Pipeline.Progress
import FrameStream.Proofs.Pipeline.Runs
import FrameStream.Proofs.Pipeline.Turns
import FrameStream.Proofs.Playlist.Boundaries
import FrameStream.Proofs.Playlist.Labels
import FrameStream.Proofs.Playlist.Programme
import FrameStream.Proofs.Playlist.Showing
import FrameStream.Proofs.Relay.Consistency
import FrameStream.Proofs.Relay.Delivery
import FrameStream.Proofs.Relay.FanOut
import FrameStream.Proofs.Relay.Faults
import FrameStream.Proofs.Relay.Framerates
import FrameStream.Proofs.Relay.Frames
import FrameStream.Proofs.Relay.Interruptions
import FrameStream.Proofs.Relay.Limits
import FrameStream.Proofs.Relay.Memory
import FrameStream.Proofs.Relay.Pairing
import FrameStream.Proofs.Relay.Preparation
import FrameStream.Proofs.Relay.Readback
import FrameStream.Proofs.Relay.Rejections
import FrameStream.Proofs.Relay.Reopening
import FrameStream.Proofs.Relay.Restarts
import FrameStream.Proofs.Relay.Run
import FrameStream.Proofs.Relay.Segments
import FrameStream.Proofs.Relay.Steps
import FrameStream.Proofs.Relay.Tokens
import FrameStream.Proofs.Relay.Transform
import FrameStream.Proofs.Results
import FrameStream.Proofs.Sidecar.Reading
import FrameStream.Proofs.Sidecar.Records
import FrameStream.Proofs.Sidecar.Values
import FrameStream.Proofs.Sidecar.Wrapping
import FrameStream.Proofs.Source.Expansion
import FrameStream.Proofs.Source.Numerals
import FrameStream.Proofs.Source.Spellings
import FrameStream.Proofs.Source.Topics
import FrameStream.Proofs.Source.Widths
import FrameStream.Proofs.Tracker.Accounts
import FrameStream.Proofs.Tracker.Freshness
import FrameStream.Relay.Script.Lemmas
import FrameStream.Text.Utf8.Lemmas
