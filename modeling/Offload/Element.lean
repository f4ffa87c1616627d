import Offload.Number.Binary

/-!
# Element types

The element types of the batched routines and of transform data: real numbers of three widths and
complex numbers of two.
-/

set_option autoImplicit false

namespace Offload

open Number

inductive ElementKind
  | half
  | single
  | double
  | complexSingle
  | complexDouble
deriving DecidableEq, Repr

namespace ElementKind

def name : ElementKind → String
  | half => "half"
  | single => "float"
  | double => "double"
  | complexSingle => "complex<float>"
  | complexDouble => "complex<double>"

def isComplex : ElementKind → Bool
  | complexSingle | complexDouble => true
  | _ => false

def format : ElementKind → Format
  | half => .half
  | single | complexSingle => .single
  | double | complexDouble => .double

end ElementKind

abbrev Element : ElementKind → Type
  | .half => Binary .half
  | .single => Binary .single
  | .double => Binary .double
  | .complexSingle => Complex (Binary .single)
  | .complexDouble => Complex (Binary .double)

namespace Element

/-- The real part of an element and, for complex types, its imaginary part. -/
def parts : {k : ElementKind} → Element k → List (Binary k.format)
  | .half, x => [x]
  | .single, x => [x]
  | .double, x => [x]
  | .complexSingle, z => [z.re, z.im]
  | .complexDouble, z => [z.re, z.im]

def ofParts : (k : ElementKind) → List (Binary k.format) → Element k
  | .half, ps => ps.headD (.zero _)
  | .single, ps => ps.headD (.zero _)
  | .double, ps => ps.headD (.zero _)
  | .complexSingle, ps => ⟨ps.headD (.zero _), (ps.drop 1).headD (.zero _)⟩
  | .complexDouble, ps => ⟨ps.headD (.zero _), (ps.drop 1).headD (.zero _)⟩

def zero (k : ElementKind) : Element k := ofParts k []

end Element

end Offload
