import Offload.Dft.Parameter
import Offload.Dft.Strides
import Offload.Error
import Offload.Number.Decimal

/-!
# Settings of a transform

The values of all parameters, as a backend gets them when a descriptor is committed.
`Settings.assign` gives one parameter a new value after checking it in full; a refused value changes
nothing.
-/

set_option autoImplicit false

namespace Offload.Dft

open Number

/-- The settings of a transform. Strides that were never set are those of the lengths. -/
structure Settings where
  precision : Precision
  domain : Domain
  lengths : List Int
  forwardScale : Double
  backwardScale : Double
  transforms : Int
  forwardDistance : Int
  backwardDistance : Int
  placement : Placement
  storage : Storage
  realStorage : Choice
  conjugateEvenStorage : Choice
  workspace : Workspace
  ordering : Choice
  transpose : Bool
  packedFormat : Choice
  explicitInputStrides : Option (List Int)
  explicitOutputStrides : Option (List Int)
deriving DecidableEq

namespace Settings

def initial (precision : Precision) (domain : Domain) (lengths : List Int) : Settings where
  precision
  domain
  lengths
  forwardScale := Double.one
  backwardScale := Double.one
  transforms := 1
  forwardDistance := 1
  backwardDistance := 1
  placement := .inPlace
  storage := .interleaved
  realStorage := .realReal
  conjugateEvenStorage := .complexComplex
  workspace := .allow
  ordering := .ordered
  transpose := false
  packedFormat := .cceFormat
  explicitInputStrides := none
  explicitOutputStrides := none

variable (s : Settings)

def dimension : Nat := s.lengths.length

def inputStrides : List Int := s.explicitInputStrides.getD (defaultStrides s.lengths)

def outputStrides : List Int := s.explicitOutputStrides.getD (defaultStrides s.lengths)

def strides : Direction → List Int
  | .forward => s.inputStrides
  | .backward => s.outputStrides

def distance : Direction → Int
  | .forward => s.forwardDistance
  | .backward => s.backwardDistance

def scale : Direction → Double
  | .forward => s.forwardScale
  | .backward => s.backwardScale

def withScale (direction : Direction) (x : Double) : Settings :=
  match direction with
  | .forward => { s with forwardScale := x }
  | .backward => { s with backwardScale := x }

theorem scale_withScale_self (s : Settings) (d : Direction) (x : Double) :
    (s.withScale d x).scale d = x := by
  cases d <;> rfl

end Settings

/-! ## Faults -/

inductive SetFault
  | readOnly (p : Parameter)
  | unsupported (p : Parameter)
  | frozen (p : Parameter)
  | kind (p : Parameter) (v : Value)
  | lengthsKind (v : Value) (dimension : Nat)
  | absent (p : Parameter)
  | count (p : Parameter) (expected found : Nat)
  | lengths (cause : LengthFault)
  | notFinite (p : Parameter) (x : Double)
  | notPositive (p : Parameter) (n : Int)
  | foreignChoice (p : Parameter) (c : Choice)
  | unsupportedChoice (p : Parameter) (c : Choice)
  | transposed
deriving DecidableEq

namespace SetFault

def text : SetFault → String
  | readOnly p =>
    let name := p.name
    s!"{name} is read-only"
  | frozen p =>
    let name := p.name
    s!"{name} cannot change after commit"
  | kind p v =>
    let name := p.name
    let found := v.kind
    s!"{name} does not accept a {found} value"
  | lengthsKind v dimension =>
    let found := v.kind
    s!"LENGTHS does not accept a {found} value for {dimension} dimensions"
  | absent p =>
    let name := p.name
    s!"{name} requires an array, got null"
  | count p expected found =>
    let name := p.name
    s!"{name} needs {expected} entries, got {found}"
  | lengths cause => cause.text
  | notFinite p x =>
    let name := p.name
    let found := x.text
    s!"{name} must be finite, got {found}"
  | notPositive p n =>
    let name := p.name
    s!"{name} must be positive, got {n}"
  | foreignChoice p c =>
    let name := p.name
    let found := c.name
    s!"{found} is not a valid {name}"
  | unsupported p =>
    let name := p.name
    s!"for {name}"
  | unsupportedChoice p c =>
    let name := p.name
    let found := c.name
    s!"for {name} = {found}"
  | transposed => "for TRANSPOSE = true"

def isUnsupported : SetFault → Bool
  | unsupported _ | unsupportedChoice _ _ | transposed => true
  | _ => false

def toError (fault : SetFault) : Error :=
  if fault.isUnsupported then .unimplemented "dft" "set_value" fault.text
  else .invalidArgument "dft" "set_value" fault.text

end SetFault

/-! ## New values -/

def positive (p : Parameter) (v : Value) : Except SetFault Int :=
  match v.asInt with
  | none => .error (.kind p v)
  | some n => if 0 < n then .ok n else .error (.notPositive p n)

/-- The meaning of a choice out of those that a parameter has. -/
def chosen {α : Type} (p : Parameter) (v : Value) (meaning : Choice → Option α) :
    Except SetFault α :=
  match v.asChoice with
  | none => .error (.kind p v)
  | some c =>
    match meaning c with
    | some a => .ok a
    | none => .error (.foreignChoice p c)

def Placement.ofChoice : Choice → Option Placement
  | .inPlace => some .inPlace
  | .notInPlace => some .outOfPlace
  | _ => none

def Storage.ofChoice : Choice → Option Storage
  | .complexComplex => some .interleaved
  | .realReal => some .split
  | _ => none

def Workspace.ofChoice : Choice → Option Workspace
  | .allow => some .allow
  | .avoid => some .avoid
  | _ => none

theorem Placement.ofChoice_choice (x : Placement) : Placement.ofChoice x.choice = some x := by
  cases x <;> rfl

theorem Storage.ofChoice_choice (x : Storage) : Storage.ofChoice x.choice = some x := by
  cases x <;> rfl

theorem Workspace.ofChoice_choice (x : Workspace) : Workspace.ofChoice x.choice = some x := by
  cases x <;> rfl

def Precision.round (p : Precision) (x : Double) : Double := (x.convert p.format).convert .double

namespace Settings

variable (s : Settings)

/-- New lengths, one for each dimension. One integer does for one dimension. -/
def newLengths (v : Value) : Except SetFault (List Int) :=
  let sized := fun lengths : List Int =>
    if lengths.length = s.dimension then
      match checkLengths lengths with
      | .ok () => .ok lengths
      | .error cause => .error (.lengths cause)
    else .error (.count .lengths s.dimension lengths.length)
  match v with
  | .null => .error (.absent .lengths)
  | .int n => if s.dimension = 1 then sized [n] else .error (.lengthsKind v s.dimension)
  | .ints lengths => sized lengths
  | _ => .error (.lengthsKind v s.dimension)

def newStrides (p : Parameter) (v : Value) : Except SetFault (List Int) :=
  match v with
  | .null => .error (.absent p)
  | .ints strides =>
    if strides.length = s.dimension + 1 then .ok strides
    else .error (.count p (s.dimension + 1) strides.length)
  | _ => .error (.kind p v)

def newScale (p : Parameter) (v : Value) : Except SetFault Double :=
  match v.asReal with
  | none => .error (.kind p v)
  | some x => if x.isFinite then .ok (s.precision.round x) else .error (.notFinite p x)

def newOrdering (v : Value) : Except SetFault Choice :=
  match v.asChoice with
  | some .ordered => .ok .ordered
  | some .backwardScrambled => .error (.unsupportedChoice .ordering .backwardScrambled)
  | _ => .error (.kind .ordering v)

/-- Whether results are transposed. That they are is not supported. -/
def newTranspose (v : Value) : Except SetFault Bool :=
  match v.asBool with
  | some false => .ok false
  | some true => .error .transposed
  | none => .error (.kind .transpose v)

def assign (p : Parameter) (v : Value) : Except SetFault Settings :=
  match p with
  | .lengths => (s.newLengths v).map fun lengths => { s with lengths }
  | .inputStrides =>
    (s.newStrides p v).map fun strides => { s with explicitInputStrides := some strides }
  | .outputStrides =>
    (s.newStrides p v).map fun strides => { s with explicitOutputStrides := some strides }
  | .forwardScale => (s.newScale p v).map fun forwardScale => { s with forwardScale }
  | .backwardScale => (s.newScale p v).map fun backwardScale => { s with backwardScale }
  | .numberOfTransforms => (positive p v).map fun transforms => { s with transforms }
  | .forwardDistance => (positive p v).map fun forwardDistance => { s with forwardDistance }
  | .backwardDistance => (positive p v).map fun backwardDistance => { s with backwardDistance }
  | .placement => (chosen p v Placement.ofChoice).map fun placement => { s with placement }
  | .complexStorage => (chosen p v Storage.ofChoice).map fun storage => { s with storage }
  | .conjugateEvenStorage =>
    (chosen p v fun c => if c = .complexComplex then some c else none).map
      fun conjugateEvenStorage => { s with conjugateEvenStorage }
  | .workspace => (chosen p v Workspace.ofChoice).map fun workspace => { s with workspace }
  | .ordering => (newOrdering v).map fun ordering => { s with ordering }
  | .transpose => (newTranspose v).map fun transpose => { s with transpose }
  | .realStorage | .packedFormat => .error (.unsupported p)
  | .forwardDomain | .precision | .dimension | .commitStatus => .error (.readOnly p)

def get (committed : Bool) : Parameter → Value
  | .forwardDomain => .domain s.domain
  | .precision => .precision s.precision
  | .dimension => .int s.dimension
  | .lengths => .ints s.lengths
  | .forwardScale => .real s.forwardScale
  | .backwardScale => .real s.backwardScale
  | .numberOfTransforms => .int s.transforms
  | .forwardDistance => .int s.forwardDistance
  | .backwardDistance => .int s.backwardDistance
  | .placement => .choice s.placement.choice
  | .complexStorage => .choice s.storage.choice
  | .realStorage => .choice s.realStorage
  | .conjugateEvenStorage => .choice s.conjugateEvenStorage
  | .inputStrides => .ints s.inputStrides
  | .outputStrides => .ints s.outputStrides
  | .workspace => .choice s.workspace.choice
  | .ordering => .choice s.ordering
  | .transpose => .bool s.transpose
  | .packedFormat => .choice s.packedFormat
  | .commitStatus => .choice (if committed then .committed else .uncommitted)

end Settings

end Offload.Dft
