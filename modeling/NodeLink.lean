import NodeLink.Dcp.Json
import NodeLink.Fault.Socket
import NodeLink.Notice
import NodeLink.Rehearsal.Report
import NodeLink.Settings.Overrides
import NodeLink.Sink.Exchange
import NodeLink.Proofs.Stroke
import NodeLink.Proofs.Effect
import NodeLink.Proofs.Advance
import NodeLink.Proofs.Chain
import NodeLink.Proofs.Disconnect
import NodeLink.Proofs.Finality
import NodeLink.Proofs.Settlement
import NodeLink.Proofs.Account
import NodeLink.Proofs.Edges
import NodeLink.Proofs.Spare
import NodeLink.Proofs.Stale
import NodeLink.Proofs.Channels
import NodeLink.Proofs.Course
import NodeLink.Proofs.Counting
import NodeLink.Proofs.Fair
import NodeLink.Proofs.Requests
import NodeLink.Proofs.Flushing
import NodeLink.Proofs.Lockstep
import NodeLink.Proofs.DataPlane
import NodeLink.Proofs.ControlPlane
import NodeLink.Proofs.Subscribers
import NodeLink.Proofs.Teardown
import NodeLink.Proofs.Transient
import NodeLink.Proofs.Undisturbed
import NodeLink.Proofs.Clockwork
import NodeLink.Proofs.Ticks
import NodeLink.Proofs.Timeline
import NodeLink.Proofs.Rounding
import NodeLink.Proofs.Powers
import NodeLink.Proofs.Growth
import NodeLink.Proofs.Jitter
import NodeLink.Proofs.Delivery
import NodeLink.Proofs.Overlap
import NodeLink.Proofs.Departure
import NodeLink.Proofs.Documents
import NodeLink.Proofs.Partial
import NodeLink.Proofs.Keeping
import NodeLink.Proofs.Layers
import NodeLink.Proofs.Rewriting
import NodeLink.Proofs.Passage
import NodeLink.Proofs.Options
