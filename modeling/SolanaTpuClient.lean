import SolanaTpuClient.Lib.Transition
import SolanaTpuClient.Lib.Refinement
import SolanaTpuClient.Lib.Procedure
import SolanaTpuClient.Lib.Coupling
import SolanaTpuClient.Lib.OutputBuffer
import SolanaTpuClient.Lib.ByteMemory
import SolanaTpuClient.Lib.ShiftedBytes
import SolanaTpuClient.Lib.Ledger
import SolanaTpuClient.Lib.Slots
import SolanaTpuClient.Lib.RingWindow
import SolanaTpuClient.Lib.FirstOccurrence
import SolanaTpuClient.Lib.Numbered
import SolanaTpuClient.Lib.RecordLayout
import SolanaTpuClient.Lib.ReturningLoop
import SolanaTpuClient.Lib.Loops
import SolanaTpuClient.Delivery.Client
import SolanaTpuClient.Delivery.Clients
import SolanaTpuClient.Properties.Events
import SolanaTpuClient.Properties.Requests
import SolanaTpuClient.Properties.Ownership
import SolanaTpuClient.Properties.Submissions
import SolanaTpuClient.Spec.Normalization
import SolanaTpuClient.Properties.Replacement
import SolanaTpuClient.Properties.Snapshots
import SolanaTpuClient.Properties.Cadence
import SolanaTpuClient.Delivery.SystemClock
import SolanaTpuClient.Ingress.Wire
import SolanaTpuClient.Spec.IngressWire
import SolanaTpuClient.Properties.IngressWire
import SolanaTpuClient.Ingress.Receive
import SolanaTpuClient.Spec.Arrivals
import SolanaTpuClient.Properties.SystemClock
import SolanaTpuClient.Properties.Validation
import SolanaTpuClient.Properties.Extensions
import SolanaTpuClient.Spec.Routing
import SolanaTpuClient.Properties.Resolution
import SolanaTpuClient.Properties.Routing
import SolanaTpuClient.Lib.BoundedFifo
import SolanaTpuClient.Properties.Polling
import SolanaTpuClient.Properties.EventRing
import SolanaTpuClient.Delivery.Borrow
import SolanaTpuClient.Properties.Borrow
import SolanaTpuClient.Delivery.ClockReadings
import SolanaTpuClient.Properties.Freshness
import SolanaTpuClient.Properties.Receive
import SolanaTpuClient.Delivery.Words
import SolanaTpuClient.Properties.ArrayLayout
import SolanaTpuClient.Spec.Service
import SolanaTpuClient.Properties.Refinement
import SolanaTpuClient.Spec.Symmetry
import SolanaTpuClient.Properties.Observation
import SolanaTpuClient.Spec.Roster
import SolanaTpuClient.Properties.Clients
import SolanaTpuClient.Delivery.SystemClient
import SolanaTpuClient.Properties.SystemClient
import SolanaTpuClient.Lib.TrapLoops
import SolanaTpuClient.Delivery.RoutingWords
import SolanaTpuClient.Properties.RoutingWords
import SolanaTpuClient.Lib.Backlog
import SolanaTpuClient.Properties.Progress
import SolanaTpuClient.Properties.Recovery
import SolanaTpuClient.Spec.Receiver
import SolanaTpuClient.Properties.ReceiverOutcome
import SolanaTpuClient.Delivery.Reentry
import SolanaTpuClient.Properties.Reentry
import SolanaTpuClient.Programs.LocalAcceptance
import SolanaTpuClient.Programs.DiscoveryRefresh
import SolanaTpuClient.Properties.Programs
