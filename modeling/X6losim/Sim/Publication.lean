import X6losim.Sim.AnyOrder

/-!
# Adding a node in two steps

The machine `publication` takes `addNode` apart: the main thread creates a node and registers its
socket with the poller in one step, and inserts the node into the registration list map in
another, while the thread of the medium does its work between the two.
-/

open Bytes

namespace X6losim

/-- A medium, and the node that the main thread has created and not inserted yet. -/
structure Publishing where
  pending : Option NodePtr
  med : Medium

/-- The steps of the two threads: the main thread creates a node and registers its socket with
the poller, or inserts the node, or the thread of the medium does a piece of work. -/
inductive Act where
  | register (p : NodePtr) (socket : UInt64)
  | insert
  | work (w : Work)

/-- The program of a step, and the node that is left to be inserted after it. -/
def Act.prog (host : ByteOrder) (kind : Kind) (env : Env) (pending : Option NodePtr) :
    Act → Prog (Option NodePtr)
  | register p socket => do
      createAndRegister env p socket
      return some p
  | insert =>
      match pending with
      | none => return none
      | some p => do
          insertReg p
          return none
  | work w => do
      w.prog host kind env
      return pending

/-- When a step can be taken, and the answers the system may give. -/
def Act.Enabled (s : Publishing) (env : Env) : Act → Prop
  | register p socket => s.pending = none ∧ s.med.Fresh p socket
  | insert => s.pending ≠ none
  | work w => w.OfThread ∧ w.Enabled s.med env

/-- A step handles an event of a node. -/
def Act.Handles (p : NodePtr) : Act → Prop
  | work (.processPollerEvent ev) => ev.data = .node p
  | _ => False

/-- A medium to which nodes are added in two steps. -/
def publication (host : ByteOrder) (kind : Kind) :
    Machine Publishing (Env × Act) (Stop × Medium) where
  init s := s = ⟨none, Medium.new⟩
  enabled s i := i.2.Enabled s i.1
  step s i :=
    match i.2.prog host kind i.1 s.pending s.med with
    | .ok pending med => .ok ⟨pending, med⟩
    | .error e med => .error (e, med)

/-- A node is on one of the maps of a medium. -/
def Medium.OnMap (m : Medium) (p : NodePtr) : Prop := ∃ map key, m.map map key = some p

end X6losim
