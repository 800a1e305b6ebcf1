import X6losim.Lib.Machine
import X6losim.Lib.History
import X6losim.Lib.Writes
import X6losim.Lib.Clock
import X6losim.Lib.Custody
import X6losim.Lib.Reorder
import X6losim.Lib.Refinement
import X6losim.Lib.OnesComplement
import X6losim.Lib.CInt
import X6losim.Wire.Length
import X6losim.Wire.Framing
import X6losim.Wire.Seal
import X6losim.Wire.WordSum
import X6losim.Wire.Corruption
import X6losim.Sim.Sending
import X6losim.Sim.Portable
import X6losim.Sim.Next
import X6losim.Sim.Reading
import X6losim.Invariant.Lifecycle
import X6losim.Sim.AnyOrder
import X6losim.Invariant.Registration
import X6losim.Invariant.Publication
import X6losim.Invariant.Accounting
import X6losim.Invariant.Collision
import X6losim.Invariant.Polling
import X6losim.Invariant.StateVariable
import X6losim.Invariant.Cca
import X6losim.Invariant.Stopping
import X6losim.Sim.HandlerError
import X6losim.Invariant.Refusal
import X6losim.Sim.Session
import X6losim.Sim.Ack
import X6losim.Sim.Remove
import X6losim.Sim.Time
import X6losim.Sim.Subtraction
import X6losim.Sim.Reply
import X6losim.Sim.Interval
import X6losim.Invariant.Halting
import X6losim.Invariant.Dangling
import X6losim.Invariant.TxState
import X6losim.Sim.Clients
import X6losim.Invariant.Clients
import X6losim.Invariant.Misuse
import X6losim.Invariant.Relay
import X6losim.Invariant.Released
import X6losim.Invariant.Ownership
import X6losim.Invariant.Bounds
import X6losim.Wire.Received
import X6losim.Invariant.Outbound
import X6losim.Sim.Accepting
import X6losim.Sim.Handover
import X6losim.Invariant.Descriptors
import X6losim.Invariant.Accepted
import X6losim.Sim.Airtime
import X6losim.Sim.ClockedSession
import X6losim.Invariant.Airtime
import X6losim.Invariant.Disjoint
import X6losim.Invariant.Deadline
import X6losim.Invariant.Assessment
import X6losim.Sim.Batch
import X6losim.Sim.BatchOrder
import X6losim.Sim.Passes
import X6losim.Sim.PassOrder
import X6losim.Invariant.BatchOrder
import X6losim.Sim.Conversion
import X6losim.Sim.SendLoop
import X6losim.Invariant.Advance
import X6losim.Invariant.Hexdump
import X6losim.Channel.Refinement
import X6losim.NodeSim.Shown
import X6losim.NodeSim.InStep
import X6losim.Lib.Component
import X6losim.Lib.Frame
import X6losim.Sim.Program
import X6losim.Sim.Start
import X6losim.Invariant.Teardown
import X6losim.Invariant.Components
import X6losim.Invariant.Request
import X6losim.Invariant.Shutdown
import X6losim.Invariant.Exit
import X6losim.Invariant.Rounds
