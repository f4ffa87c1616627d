import Offload.Dft.Backend
import Offload.Rocm.Plan

/-!
# The backend for AMD devices

The AMD library lists dimensions from the fastest to the slowest and has unsigned lengths and
strides. `planSpecs` states the two plans that serve some settings, one for each direction. No
library is linked here, so plans that can be stated are still not made.
-/

set_option autoImplicit false

namespace Offload.Dft.RocFft

open Number

inductive Fault
  | negative (name : String) (value : Int)
  | empty (name : String)
deriving DecidableEq, Repr

def Fault.text : Fault → String
  | negative name value => s!"{name} must be non-negative, got {value}"
  | empty name => s!"{name} is empty"

def Fault.toError (fault : Fault) : Error := .invalidArgument "dft" "commit" fault.text

def toCount (name : String) (value : Int) : Except Fault Nat :=
  if 0 ≤ value then .ok value.toNat else .error (.negative name value)

theorem toCount_eq_ok_iff {name : String} {value : Int} {count : Nat} :
    toCount name value = .ok count ↔ value = count := by
  unfold toCount
  split
  · simp only [Except.ok.injEq]
    omega
  · simp only [reduceCtorEq, false_iff]
    omega

/-- Unsigned counts, up to the first that is negative. -/
def toCounts (name : String) : List Int → Except Fault (List Nat)
  | [] => .ok []
  | value :: rest =>
    match toCount name value with
    | .error e => .error e
    | .ok count => (toCounts name rest).map (count :: ·)

/-- The offset and the strides of a domain, from the fastest dimension to the slowest. -/
def splitStrides (name : String) : List Int → Except Fault (Nat × List Nat)
  | [] => .error (.empty name)
  | offset :: rest =>
    match toCounts name rest.reverse with
    | .error e => .error e
    | .ok counts => (toCount name offset).map fun offset => (offset, counts)

structure Side where
  array : Rocm.ArrayType
  offset : Nat
  strides : List Nat
  distance : Nat

def arrays (s : Settings) : Direction → Rocm.ArrayType
  | .forward =>
    match s.domain, s.storage with
    | .real, _ => .real
    | .complex, .interleaved => .complexInterleaved
    | .complex, .split => .complexPlanar
  | .backward =>
    match s.domain, s.storage with
    | .real, _ => .hermitianInterleaved
    | .complex, .interleaved => .complexInterleaved
    | .complex, .split => .complexPlanar

def transformType (s : Settings) : Direction → Rocm.TransformType
  | .forward => match s.domain with
    | .complex => .complexForward
    | .real => .realForward
  | .backward => match s.domain with
    | .complex => .complexInverse
    | .real => .realInverse

/-- The plan of a direction, from its input side to its output side. -/
def planSpec (s : Settings) (direction : Direction) (lengths : List Nat) (transforms : Nat)
    (input output : Side) : Rocm.PlanSpec where
  placement := match s.placement with
    | .inPlace => .inPlace
    | .outOfPlace => .outOfPlace
  transform := transformType s direction
  precision := match s.precision with
    | .single => .single
    | .double => .double
  lengths
  transforms
  inArray := input.array
  outArray := output.array
  inOffsets := (input.offset, input.offset)
  outOffsets := (output.offset, output.offset)
  inStrides := input.strides
  inDistance := input.distance
  outStrides := output.strides
  outDistance := output.distance
  scale := s.scale direction

/-- The plans of both directions. Values are read in a fixed order, and the first fault is
reported. -/
def planSpecs (s : Settings) : Except Fault (Rocm.PlanSpec × Rocm.PlanSpec) := do
  let lengths ← toCounts "LENGTHS" s.lengths.reverse
  let (inOffset, inStrides) ← splitStrides "INPUT_STRIDES" s.inputStrides
  let (outOffset, outStrides) ← splitStrides "OUTPUT_STRIDES" s.outputStrides
  let transforms ← toCount "NUMBER_OF_TRANSFORMS" s.transforms
  let forwardDistance ← toCount "FWD_DISTANCE" s.forwardDistance
  let backwardDistance ← toCount "BWD_DISTANCE" s.backwardDistance
  let forward : Side := ⟨arrays s .forward, inOffset, inStrides, forwardDistance⟩
  let backward : Side := ⟨arrays s .backward, outOffset, outStrides, backwardDistance⟩
  return (planSpec s .forward lengths transforms forward backward,
    planSpec s .backward lengths transforms backward forward)

/-- The error of making the plans of some settings for a device. -/
def refusal (device : Device) (s : Settings) : Error :=
  match planSpecs s with
  | .error e => e.toError
  | .ok (forward, _) => (Rocm.PlanSpec.refusal forward).toError "dft" device

def backend {ω π : Type} : Backend ω π where
  name := "rocfft"
  supports device := device.vendor == .amd
  commit queue s := Action.refuse (refusal queue.device s)

end Offload.Dft.RocFft
