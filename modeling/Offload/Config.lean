import Offload.Device.Spec

/-!
# Dispatch configuration

What a user can set: the device that new queues target, whether an unusable backend is an error, and
for each domain the preferred backend and whether it is dispatched at all.
-/

set_option autoImplicit false

namespace Offload

structure Preference where
  backend : Option String := none
  enabled : Bool := true
deriving DecidableEq, Repr

structure Config where
  device : Device.Spec := .auto
  /-- An unusable preferred backend is an error instead of a reason to fall back. -/
  strict : Bool := false
  blas : Preference := {}
  dft : Preference := {}
deriving DecidableEq, Repr

namespace Config

def checkPreference (domain : String) (p : Preference) : Except Error Unit :=
  match p.backend with
  | none => .ok ()
  | some name =>
    if Text.trim name.toList = [] then .error (.config s!"{domain}.backend must not be blank")
    else if p.enabled then .ok ()
    else
      .error (.config
        s!"{domain}.backend = '{name}' is set but {domain} dispatch is disabled")

def validate (c : Config) : Except Error Unit :=
  match checkPreference "blas" c.blas with
  | .error e => .error e
  | .ok () => checkPreference "dft" c.dft

end Config

end Offload
