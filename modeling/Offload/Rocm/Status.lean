import Offload.Device
import Offload.Error

/-!
# Status codes of the AMD libraries

The HIP runtime, rocBLAS and rocFFT each report a status as an unsigned 32-bit code. Codes without a
name of their own are decoded to an unknown status. `Rocm.Error` is what a call into one of the
libraries can end in, and `Error.toError` is how the dispatch layer reports it.
-/

set_option autoImplicit false

namespace Offload.Rocm

inductive Library
  | hip
  | rocblas
  | rocfft
deriving DecidableEq, Repr

structure Status where
  code : Nat
  name : String
deriving DecidableEq, Repr

namespace Library

def name : Library → String
  | hip => "HIP"
  | rocblas => "rocBLAS"
  | rocfft => "rocFFT"

def statuses : Library → List Status
  | hip =>
    [⟨0, "Success"⟩, ⟨1, "InvalidValue"⟩, ⟨2, "OutOfMemory"⟩, ⟨3, "NotInitialized"⟩,
      ⟨100, "NoDevice"⟩, ⟨101, "InvalidDevice"⟩, ⟨301, "FileNotFound"⟩, ⟨600, "NotReady"⟩]
  | rocblas =>
    [⟨0, "Success"⟩, ⟨1, "InvalidHandle"⟩, ⟨2, "NotImplemented"⟩, ⟨3, "InvalidPointer"⟩,
      ⟨4, "InvalidSize"⟩, ⟨5, "MemoryError"⟩, ⟨6, "InternalError"⟩, ⟨7, "PerfDegraded"⟩,
      ⟨8, "SizeQueryMismatch"⟩, ⟨9, "SizeIncreased"⟩, ⟨10, "SizeUnchanged"⟩,
      ⟨11, "InvalidValue"⟩, ⟨12, "Continue"⟩, ⟨13, "CheckNumericsFail"⟩]
  | rocfft =>
    [⟨0, "Success"⟩, ⟨1, "Failure"⟩, ⟨2, "InvalidArgValue"⟩, ⟨3, "InvalidDimensions"⟩,
      ⟨4, "InvalidArrayType"⟩, ⟨5, "InvalidStrides"⟩, ⟨6, "InvalidDistance"⟩,
      ⟨7, "InvalidOffset"⟩, ⟨8, "InvalidWorkBuffer"⟩]

/-- The status that codes without a name are decoded to. -/
def unknown : Library → Status
  | hip => ⟨999, "Unknown"⟩
  | rocblas | rocfft => ⟨4294967295, "Unknown"⟩

def decode (l : Library) (code : Nat) : Status :=
  (l.statuses.find? (·.code == code)).getD l.unknown

/-- The status reports a completed call. In rocBLAS a slower result than usual counts as one. -/
def isOk (l : Library) (s : Status) : Bool :=
  s.code == 0 || l == .rocblas && s.code == 7

end Library

inductive Error
  /-- A library reported a status. The context is what the runtime did, or the routine called. -/
  | status (library : Library) (status : Status) (context : String)
  | runtimeNotFound (detail : String)
  | notLinked (library feature : String)
  | invalidArgument (message : String)
deriving DecidableEq, Repr

namespace Error

def message : Error → String
  | status .hip found context => s!"HIP runtime error in {context}: {found.name}"
  | status library found context => s!"{library.name} {context} returned {found.name}"
  | runtimeNotFound detail => s!"ROCm runtime not found: {detail}"
  | notLinked library feature =>
    s!"{library} support was not compiled in (enable the `{feature}` feature)"
  | invalidArgument message => s!"invalid argument: {message}"

def signedCode (s : Status) : Int := (s.code : Int).bmod 4294967296

def toError (domain : String) (device : Device) : Error → Offload.Error
  | notLinked .. | runtimeNotFound _ => .backendUnavailable domain device.text
  | status .hip found context => .backend "HIP" "runtime" (signedCode found) context
  | status .rocblas ⟨2, _⟩ routine =>
    .unimplemented domain routine "by rocBLAS for these arguments"
  | status library found routine =>
    .backend library.name routine (signedCode found) found.name
  | invalidArgument message => .invalidArgument domain "rocm" message

end Error

def check (l : Library) (code : Nat) (context : String) : Except Error Unit :=
  let status := l.decode code
  if l.isOk status then .ok () else .error (.status l status context)

end Offload.Rocm
