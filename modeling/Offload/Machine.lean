import Offload.Queue

/-!
# The machine that calls run on

What lasts from one call to the next: the books of the queues, and the notes that backends take of
the calls they get. A call of type `Action ω α` may change the state `ω` whether it fails or not.
-/

set_option autoImplicit false

namespace Offload

/-- A call that works on a state and may fail. -/
abbrev Action (ω α : Type) : Type := ω → Except Error α × ω

namespace Action

variable {ω α : Type}

def refuse (e : Error) : Action ω α := fun w => (.error e, w)

end Action

/-- The books of the queues and the notes taken so far, latest first. -/
structure Machine (ν : Type) where
  queues : Queues := {}
  notes : List ν := []
deriving Inhabited

namespace Machine

variable {ν σ : Type}

def note (m : Machine ν) (n : ν) : Machine ν := { m with notes := n :: m.notes }

def submit (m : Machine ν) (q : Queue) (task : String) (dependencies : List Event)
    (work : σ → Except Error Unit × σ) (data : σ) : Event × Machine ν × σ :=
  let (event, queues, data) := m.queues.submit q task dependencies work data
  (event, { m with queues }, data)

end Machine

end Offload
