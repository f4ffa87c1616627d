import Offload.Number.Binary
import Offload.Number.Bounds

/-!
# Parameters of a transform

A transform is configured through a table of named parameters. Their values are of several kinds;
`Value` holds one of any kind, as it is passed in and read back.
-/

set_option autoImplicit false

namespace Offload.Dft

open Number

inductive Precision
  | single
  | double
deriving DecidableEq, Repr

def Precision.format : Precision → Format
  | single => .single
  | double => .double

/-- The domain that forward transforms start from; the other one is always complex. -/
inductive Domain
  | real
  | complex
deriving DecidableEq, Repr

/-- Which way a transform runs, and also which of its two domains is meant. -/
inductive Direction
  | forward
  | backward
deriving DecidableEq, Repr

def Direction.opposite : Direction → Direction
  | forward => backward
  | backward => forward

def Direction.task : Direction → String
  | forward => "compute_forward"
  | backward => "compute_backward"

inductive Placement
  | inPlace
  | outOfPlace
deriving DecidableEq, Repr

/-- Complex numbers are stored as pairs, or their parts apart. -/
inductive Storage
  | interleaved
  | split
deriving DecidableEq, Repr

inductive Workspace
  | allow
  | avoid
deriving DecidableEq, Repr

inductive Choice
  | committed
  | uncommitted
  | complexComplex
  | realReal
  | inPlace
  | notInPlace
  | ordered
  | backwardScrambled
  | allow
  | avoid
  | cceFormat
deriving DecidableEq, Repr

def Choice.name : Choice → String
  | committed => "COMMITTED"
  | uncommitted => "UNCOMMITTED"
  | complexComplex => "COMPLEX_COMPLEX"
  | realReal => "REAL_REAL"
  | inPlace => "INPLACE"
  | notInPlace => "NOT_INPLACE"
  | ordered => "ORDERED"
  | backwardScrambled => "BACKWARD_SCRAMBLED"
  | allow => "ALLOW"
  | avoid => "AVOID"
  | cceFormat => "CCE_FORMAT"

def Choice.all : List Choice :=
  [committed, uncommitted, complexComplex, realReal, inPlace, notInPlace, ordered,
    backwardScrambled, allow, avoid, cceFormat]

theorem Choice.mem_all (c : Choice) : c ∈ Choice.all := by
  cases c <;> decide

def Placement.choice : Placement → Choice
  | inPlace => .inPlace
  | outOfPlace => .notInPlace

def Storage.choice : Storage → Choice
  | interleaved => .complexComplex
  | split => .realReal

def Workspace.choice : Workspace → Choice
  | allow => .allow
  | avoid => .avoid

inductive Parameter
  | forwardDomain
  | dimension
  | lengths
  | precision
  | forwardScale
  | backwardScale
  | numberOfTransforms
  | complexStorage
  | realStorage
  | conjugateEvenStorage
  | placement
  | inputStrides
  | outputStrides
  | forwardDistance
  | backwardDistance
  | workspace
  | ordering
  | transpose
  | packedFormat
  | commitStatus
deriving DecidableEq, Repr

namespace Parameter

def name : Parameter → String
  | forwardDomain => "FORWARD_DOMAIN"
  | dimension => "DIMENSION"
  | lengths => "LENGTHS"
  | precision => "PRECISION"
  | forwardScale => "FORWARD_SCALE"
  | backwardScale => "BACKWARD_SCALE"
  | numberOfTransforms => "NUMBER_OF_TRANSFORMS"
  | complexStorage => "COMPLEX_STORAGE"
  | realStorage => "REAL_STORAGE"
  | conjugateEvenStorage => "CONJUGATE_EVEN_STORAGE"
  | placement => "PLACEMENT"
  | inputStrides => "INPUT_STRIDES"
  | outputStrides => "OUTPUT_STRIDES"
  | forwardDistance => "FWD_DISTANCE"
  | backwardDistance => "BWD_DISTANCE"
  | workspace => "WORKSPACE"
  | ordering => "ORDERING"
  | transpose => "TRANSPOSE"
  | packedFormat => "PACKED_FORMAT"
  | commitStatus => "COMMIT_STATUS"

def all : List Parameter :=
  [forwardDomain, dimension, lengths, precision, forwardScale, backwardScale, numberOfTransforms,
    complexStorage, realStorage, conjugateEvenStorage, placement, inputStrides, outputStrides,
    forwardDistance, backwardDistance, workspace, ordering, transpose, packedFormat, commitStatus]

theorem mem_all (p : Parameter) : p ∈ all := by
  cases p <;> decide

/-- The parameter is fixed by the type and shape of the descriptor. -/
def isReadOnly : Parameter → Bool
  | forwardDomain | precision | dimension | commitStatus => true
  | _ => false

def isChangeableAfterCommit : Parameter → Bool
  | forwardScale | backwardScale => true
  | _ => false

def scaleDirection? : Parameter → Option Direction
  | forwardScale => some .forward
  | backwardScale => some .backward
  | _ => none

end Parameter

def Direction.stridesParameter : Direction → Parameter
  | forward => .inputStrides
  | backward => .outputStrides

inductive Value
  /-- An array that is absent. -/
  | null
  | int (n : Int)
  | real (x : Double)
  | bool (b : Bool)
  | ints (ns : List Int)
  | choice (c : Choice)
  | domain (d : Domain)
  | precision (p : Precision)
deriving DecidableEq

namespace Value

def kind : Value → String
  | null => "null"
  | int _ => "integer"
  | real _ => "real"
  | bool _ => "bool"
  | ints _ => "integer array"
  | choice _ => "config value"
  | domain _ => "domain"
  | precision _ => "precision"

def asInt : Value → Option Int
  | int n => some n
  | _ => none

/-- A real number; integers count as the nearest one. -/
def asReal : Value → Option Double
  | real x => some x
  | int n => some (Binary.ofInt .double n)
  | _ => none

def asBool : Value → Option Bool
  | bool b => some b
  | _ => none

def asInts : Value → Option (List Int)
  | ints ns => some ns
  | _ => none

def asChoice : Value → Option Choice
  | choice c => some c
  | _ => none

def asDomain : Value → Option Domain
  | domain d => some d
  | _ => none

def asPrecision : Value → Option Precision
  | precision p => some p
  | _ => none

/-- The value of a count of memory, in the range of signed integers. -/
def ofCount (n : Nat) : Value := int (wrapInt64 n)

def ofSingle (x : Binary .single) : Value := real (x.convert .double)

end Value

end Offload.Dft
