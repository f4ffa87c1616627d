import Offload.Dft.Backend

/-!
# Descriptors

A descriptor holds the settings of one transform. Committing it binds it to a queue and to the plan
that a backend makes for the settings; from then on only the scales change, and only as far as the
plan agrees. A call that fails leaves the descriptor as it was.
-/

set_option autoImplicit false

namespace Offload.Dft

open Number

/-- The plan of a committed descriptor, with the queue and the backend that it was made for. -/
structure Commitment (π : Type) where
  plan : π
  queue : Queue
  backend : String

structure Descriptor (π : Type) where
  settings : Settings
  commitment : Option (Commitment π)

namespace Descriptor

variable {ω π : Type}

def new (precision : Precision) (domain : Domain) (lengths : List Int) :
    Except Error (Descriptor π) :=
  if lengths = [] then
    .error (.invalidArgument "dft" "descriptor" "at least one dimension is required")
  else
    match checkLengths lengths with
    | .error cause => .error (.invalidArgument "dft" "descriptor" cause.text)
    | .ok () => .ok ⟨Settings.initial precision domain lengths, none⟩

def isCommitted (d : Descriptor π) : Bool := d.commitment.isSome

def backend? (d : Descriptor π) : Option String := d.commitment.map (·.backend)

def get (d : Descriptor π) (p : Parameter) : Value := d.settings.get d.isCommitted p

def checkChangeable (d : Descriptor π) (p : Parameter) : Except SetFault Unit :=
  if p.isReadOnly then .error (.readOnly p)
  else if p = .realStorage ∨ p = .packedFormat then .error (.unsupported p)
  else if d.isCommitted && !p.isChangeableAfterCommit then .error (.frozen p)
  else .ok ()

def proposed (d : Descriptor π) (p : Parameter) (v : Value) : Except SetFault Settings :=
  match d.checkChangeable p with
  | .error fault => .error fault
  | .ok () => d.settings.assign p v

/-- Sets a parameter; returns how that went and the descriptor afterwards. A committed plan is asked
to take over a new scale before the scale is stored. -/
def set [Plan ω π] (d : Descriptor π) (p : Parameter) (v : Value) (w : ω) :
    Except Error Unit × Descriptor π × ω :=
  match d.proposed p v with
  | .error fault => (.error fault.toError, d, w)
  | .ok settings =>
    match d.commitment, p.scaleDirection? with
    | some c, some direction =>
      match Plan.setScale c.plan direction (settings.scale direction) w with
      | (.error e, w) => (.error e, d, w)
      | (.ok plan, w) => (.ok (), ⟨settings, some { c with plan }⟩, w)
    | commitment, _ => (.ok (), ⟨settings, commitment⟩, w)

/-- The error of committing a real-domain descriptor with split storage, for which no call exists. -/
def splitReal : Error :=
  .unimplemented "dft" "commit" "for COMPLEX_STORAGE = REAL_REAL on real-domain descriptors"

/-- Commits a descriptor to a queue; returns how that went and the descriptor afterwards. -/
def commit (registry : Registry (Backend ω π)) (d : Descriptor π) (queue : Queue) (w : ω) :
    Except Error Unit × Descriptor π × ω :=
  if d.settings.domain = .real ∧ d.settings.storage = .split then (.error splitReal, d, w)
  else
    match registry.backendFor queue.device with
    | .error e => (.error e, d, w)
    | .ok backend =>
      match backend.commit queue d.settings w with
      | (.error e, w) => (.error e, d, w)
      | (.ok plan, w) => (.ok (), ⟨d.settings, some ⟨plan, queue, backend.name⟩⟩, w)

end Descriptor

end Offload.Dft
