import Offload.Dft.Data
import Offload.Dft.Settings
import Offload.Machine
import Offload.Registry

/-!
# Backends and plans

A backend turns settings into a plan, which carries out transforms. `ω` is the state that calls work
on and `π` the type of plans.
-/

set_option autoImplicit false

namespace Offload.Dft

open Number

class Plan (ω : Type) (π : Type) where
  /-- Submits one transform to a queue; returns its event and the data afterwards. -/
  execute : π → Queue → Direction → Args Samples → List Event → ω →
    Except Error Event × Args Samples × ω
  setScale : π → Direction → Double → Action ω π

structure Backend (ω : Type) (π : Type) where
  name : String
  supports : Device → Bool
  commit : Queue → Settings → Action ω π

instance {ω π : Type} : Served (Backend ω π) where
  name b := b.name
  supports b := b.supports

def fixedScale (direction : Direction) : Error :=
  let function := match direction with
    | .forward => "set_forward_scale"
    | .backward => "set_backward_scale"
  .unimplemented "dft" function "after commit for this backend"

end Offload.Dft
