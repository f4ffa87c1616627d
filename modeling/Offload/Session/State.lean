import Offload.Blas.RocBlas
import Offload.Dft.Compute
import Offload.Dft.Reference
import Offload.Dft.RocFft
import Offload.Session.Command

/-!
# The state of a session

Everything that a session can name, the registries of both domains, and the machine that calls run
on.
-/

set_option autoImplicit false

namespace Offload.Session

open Number

/-- Things by name; a name stands for the thing it was given last. -/
abbrev Names (κ α : Type) : Type := List (κ × α)

namespace Names

variable {κ α : Type} [DecidableEq κ]

def get? (ns : Names κ α) (key : κ) : Option α := (ns.find? fun entry => entry.1 == key).map (·.2)

def put (ns : Names κ α) (key : κ) (a : α) : Names κ α :=
  (key, a) :: ns.filter fun entry => entry.1 != key

end Names

inductive SessionPlan
  | reference (plan : Dft.Reference.ReferencePlan)
  | probe (plan : Dft.Probe.ProbePlan)

instance : Dft.Plan (Machine Note) SessionPlan where
  execute
    | .reference plan => Dft.Plan.execute plan
    | .probe plan => Dft.Probe.execute Note.dft plan
  setScale
    | .reference plan, direction, x, m =>
      let (answer, m) := (Dft.Plan.setScale plan direction x : Action (Machine Note) _) m
      (answer.map .reference, m)
    | .probe plan, direction, x, m =>
      let (answer, m) := Dft.Probe.setScale Note.dft plan direction x m
      (answer.map .probe, m)

structure State where
  machine : Machine Note
  blas : Registry (Blas.Backend (Machine Note))
  dft : Registry (Dft.Backend (Machine Note) SessionPlan)
  queues : Names String Queue
  events : Names String Event
  buffers : Names (ElementKind × String) Nat
  memory : Dft.Memory
  descriptors : Names String (Dft.Descriptor SessionPlan)

namespace State

def hostQueue : String := "host"

/-- The state before the first command: the built-in backends under the default settings, and one
queue on the host. -/
def initial : State :=
  let (host, queues) := Queues.create {} Device.host
  { machine := { queues }
    blas := (Registry.empty "blas").register Blas.RocBlas.backend
    dft := (Registry.empty "dft").register Dft.RocFft.backend
    queues := [(hostQueue, host)]
    events := []
    buffers := []
    memory := ⟨[]⟩
    descriptors := [] }

def queue (s : State) (id : String) : Queue := (s.queues.get? id).getD ⟨0, Device.host⟩

/-- The event of a name. Two names stand for events that are complete from the start. -/
def event (s : State) (id : String) : Event :=
  if id = "completed" ∨ id = "default" then Event.completed
  else (s.events.get? id).getD Event.completed

def storage (s : State) (k : ElementKind) (id : String) : Nat :=
  (s.buffers.get? (k, id)).getD s.memory.cells.length

def contents (s : State) (k : ElementKind) (id : String) : Dft.Samples :=
  s.memory.get (s.storage k id)

def blasBuffer (s : State) (k : ElementKind) (id : String) : Blas.Buffer :=
  ⟨⟨s.storage k id, (s.contents k id).length⟩⟩

def queueName (s : State) (id : Nat) : Option String :=
  (s.queues.filter fun entry => entry.2.id == id).foldl
    (fun best entry =>
      match best with
      | none => some entry.1
      | some name => if entry.1 < name then some entry.1 else some name) none

def view (s : State) (e : Event) : EventView := ⟨e, e.queue.bind s.queueName⟩

def submitted (s : State) (queue : String) : Nat := s.machine.queues.submitted (s.queue queue)

def keep (s : State) (name : Option String) (e : Event) : State :=
  match name with
  | none => s
  | some id => { s with events := s.events.put id e }

end State

end Offload.Session
