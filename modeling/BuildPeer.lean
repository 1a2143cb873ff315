import BuildPeer.Main
import BuildPeer.Proofs.Signals
import BuildPeer.Proofs.Delivery
import BuildPeer.Proofs.Reading
import BuildPeer.Proofs.Text.Utf8
import BuildPeer.Proofs.Text.Blank
import BuildPeer.Proofs.Grammar
import BuildPeer.Proofs.Header
import BuildPeer.Proofs.Framing
import BuildPeer.Proofs.Exchanges
import BuildPeer.Proofs.Run
import BuildPeer.Proofs.Accounting
import BuildPeer.Proofs.Json.Scalar
import BuildPeer.Proofs.Json.Tree
import BuildPeer.Proofs.Json.Sequence
import BuildPeer.Proofs.Json.Value
import BuildPeer.Proofs.Response
import BuildPeer.Proofs.Stream
import BuildPeer.Proofs.History
import BuildPeer.Proofs.Permissive
import BuildPeer.Proofs.Round
import BuildPeer.Proofs.CleanExit
import BuildPeer.Proofs.Json.Shape
import BuildPeer.Proofs.Json.Skip
import BuildPeer.Proofs.Json.Path
import BuildPeer.Proofs.Json.Record
import BuildPeer.Proofs.Envelope
import BuildPeer.Proofs.Alignment
import BuildPeer.Proofs.Boundaries
import BuildPeer.Proofs.Stateless
import BuildPeer.Proofs.BrokenSink
import BuildPeer.Proofs.PartialWrites
import BuildPeer.Proofs.Hearing
import BuildPeer.Proofs.Neutral
import BuildPeer.Proofs.Influence
import BuildPeer.Proofs.Faults
import BuildPeer.Proofs.Waits
import BuildPeer.Proofs.Binary64.Rounding
import BuildPeer.Proofs.Binary64.Shortest
import BuildPeer.Proofs.Binary64.Text
import BuildPeer.Proofs.Json.Number
import BuildPeer.Proofs.Json.Alike
import BuildPeer.Proofs.Identification
import BuildPeer.Proofs.Loosening
import BuildPeer.Proofs.Bounds
import BuildPeer.Proofs.Layout
import BuildPeer.Proofs.CommandLine
import BuildPeer.Proofs.Settings
import BuildPeer.Proofs.Precedence
import BuildPeer.Proofs.Growing
import BuildPeer.Proofs.Live
