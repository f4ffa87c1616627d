import Offload.Number.Binary
import Offload.Rocm.Status

/-!
# Plans of the AMD transform library

A plan states a transform in the terms of the library: dimensions from the fastest to the slowest,
all counts unsigned, and options by their codes.
-/

set_option autoImplicit false

namespace Offload.Rocm

inductive Placement
  | inPlace
  | outOfPlace
deriving DecidableEq, Repr

def Placement.code : Placement → Nat
  | inPlace => 0
  | outOfPlace => 1

inductive TransformType
  | complexForward
  | complexInverse
  | realForward
  | realInverse
deriving DecidableEq, Repr

def TransformType.code : TransformType → Nat
  | complexForward => 0
  | complexInverse => 1
  | realForward => 2
  | realInverse => 3

inductive Precision
  | single
  | double
deriving DecidableEq, Repr

def Precision.code : Precision → Nat
  | single => 0
  | double => 1

inductive ArrayType
  | complexInterleaved
  | complexPlanar
  | real
  | hermitianInterleaved
  | hermitianPlanar
deriving DecidableEq, Repr

namespace ArrayType

def code : ArrayType → Nat
  | complexInterleaved => 0
  | complexPlanar => 1
  | real => 2
  | hermitianInterleaved => 3
  | hermitianPlanar => 4

def all : List ArrayType :=
  [complexInterleaved, complexPlanar, real, hermitianInterleaved, hermitianPlanar]

/-- Planar arrays take a buffer for each part. -/
def bufferCount : ArrayType → Nat
  | complexPlanar | hermitianPlanar => 2
  | _ => 1

end ArrayType

structure PlanSpec where
  placement : Placement
  transform : TransformType
  precision : Precision
  lengths : List Nat
  transforms : Nat
  inArray : ArrayType
  outArray : ArrayType
  /-- One offset for each buffer that an input array can take. -/
  inOffsets : Nat × Nat
  outOffsets : Nat × Nat
  inStrides : List Nat
  inDistance : Nat
  outStrides : List Nat
  outDistance : Nat
  scale : Number.Double
deriving DecidableEq

namespace PlanSpec

/-- The library takes up to three dimensions, each with its strides. -/
def validate (p : PlanSpec) : Except Error Unit :=
  let dimensions := p.lengths.length
  if dimensions = 0 ∨ 3 < dimensions then
    .error (.invalidArgument s!"rocFFT supports 1 to 3 dimensions, got {dimensions}")
  else if p.inStrides.length ≠ dimensions ∨ p.outStrides.length ≠ dimensions then
    .error (.invalidArgument "stride count must equal dimension")
  else .ok ()

/-- The error of making a plan. The library is not linked, so a valid plan is not made either. -/
def refusal (p : PlanSpec) : Error :=
  match p.validate with
  | .error e => e
  | .ok () => .notLinked "rocFFT" "rocfft"

end PlanSpec

end Offload.Rocm
