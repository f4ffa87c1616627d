import Offload.Config
import Offload.Element
import Offload.Rocm.Status

/-!
# Availability

What there is without the libraries linked and without a HIP runtime on the machine: no devices but
the host, no routines, and an error for every call.
-/

set_option autoImplicit false

namespace Offload.Rocm

def runtimeAvailable : Bool := false

def gpus : List Device := []

def availableDevices : List Device := Device.host :: gpus

def deviceFor (c : Config) : Except Offload.Error Device := c.device.resolve availableDevices

def hasRoutines (_ : ElementKind) : Bool := false

def noHandle : Error := .notLinked "rocBLAS" "rocblas"

def noRuntime : Error := .notLinked "HIP" "rocblas` or `rocfft"

end Offload.Rocm
