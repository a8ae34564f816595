import ControlLoop.Simulation.World
import ControlLoop.Simulation.Adapters
import ControlLoop.Uuid
import ControlLoop.Proofs.Footprint
import ControlLoop.Proofs.Identifier
import ControlLoop.Simulation.Disk
import ControlLoop.Proofs.Coherence
import ControlLoop.Proofs.Agreement
import ControlLoop.Proofs.Trace
import ControlLoop.Proofs.Convergence
import ControlLoop.Proofs.Confirmation
import ControlLoop.Proofs.Report
import ControlLoop.Proofs.Keeping
import ControlLoop.Proofs.Delivery
import ControlLoop.Proofs.Update
import ControlLoop.Simulation.Server
import ControlLoop.Proofs.Applied
import ControlLoop.Proofs.Taint
import ControlLoop.Proofs.Refusal
import ControlLoop.Proofs.Reuse
import ControlLoop.Proofs.Ordering
import ControlLoop.Proofs.Budget
import ControlLoop.Proofs.Certainty
import ControlLoop.Proofs.Heeding
import ControlLoop.Proofs.Interruption
import ControlLoop.Proofs.Timestamp
import ControlLoop.Proofs.Storage
import ControlLoop.Proofs.Addressing
import ControlLoop.Proofs.Readdressing
import ControlLoop.Proofs.Retagging
import ControlLoop.Proofs.Matching
import ControlLoop.Proofs.Schedule
import ControlLoop.Proofs.Decision
import ControlLoop.Proofs.Waiting
import ControlLoop.Proofs.Endurance
import ControlLoop.Proofs.ByteOrder
import ControlLoop.Proofs.Difference
import ControlLoop.Proofs.Settling
import ControlLoop.Proofs.Codec
import ControlLoop.Proofs.Readers
import ControlLoop.Proofs.Conversion
import ControlLoop.Proofs.Patch
import ControlLoop.Proofs.HalfApplied
import ControlLoop.Proofs.Specificity
import ControlLoop.Proofs.Doubling
import ControlLoop.Proofs.Overrides
import ControlLoop.Proofs.Missing
import ControlLoop.Proofs.Listing
