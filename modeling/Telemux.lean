import Telemux.Client.Step
import Telemux.Link.Memory
import Telemux.Link.Socket
import Telemux.Main
import Telemux.Proofs.Calls
import Telemux.Proofs.Wire
import Telemux.Proofs.Outcome
import Telemux.Proofs.Subscriptions
import Telemux.Proofs.Live
import Telemux.Proofs.Binding
import Telemux.Proofs.Delivery
import Telemux.Proofs.Fates
import Telemux.Proofs.Replay
import Telemux.Proofs.Feed
import Telemux.Proofs.Interruption
import Telemux.Proofs.Outdated
import Telemux.Proofs.Sequences
import Telemux.Proofs.Stream
import Telemux.Proofs.Pending
import Telemux.Proofs.Closing
import Telemux.Proofs.Canonical
import Telemux.Proofs.Inert
import Telemux.Proofs.Reordering
import Telemux.Proofs.Connected
import Telemux.Proofs.Refusal
import Telemux.Proofs.Isolation
import Telemux.Proofs.Tasks
import Telemux.Proofs.Restoration
import Telemux.Proofs.Bodies
import Telemux.Proofs.Retained
import Telemux.Proofs.Normal
import Telemux.Proofs.Requested
import Telemux.Proofs.Envelope
import Telemux.Proofs.Naming
import Telemux.Proofs.Segments
import Telemux.Proofs.Console
import Telemux.Proofs.Resolution
import Telemux.Proofs.Escapes
import Telemux.Proofs.Sites
import Telemux.Proofs.Durations
import Telemux.Proofs.Printed
import Telemux.Proofs.Socket
import Telemux.Proofs.Counted
import Telemux.Proofs.Transcript
import Telemux.Proofs.Memory
import Telemux.Proofs.Correlation
