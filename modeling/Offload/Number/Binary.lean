import Offload.Number.Bounds
import Offload.Number.Power

/-!
# Binary interchange formats

Floating-point numbers as bit patterns. `Binary f` is a pattern of format `f`; `Binary.exact` reads
it exactly, as a sign, a natural significand and a power of two, and `Binary.ofExact` writes such a
value back, rounding to the nearest representable number and to the even one of two equally near.
Conversions between formats and from integers are reading followed by writing.
-/

set_option autoImplicit false

namespace Offload.Number

/-- A binary interchange format, by the widths of its exponent and fraction fields. -/
structure Format where
  exponentBits : Nat
  fractionBits : Nat
deriving DecidableEq, Repr

namespace Format

def half : Format := ⟨5, 10⟩

def single : Format := ⟨8, 23⟩

def double : Format := ⟨11, 52⟩

def width (f : Format) : Nat := 1 + f.exponentBits + f.fractionBits

def topField (f : Format) : Nat := pow2 f.exponentBits - 1

def bias (f : Format) : Nat := pow2 (f.exponentBits - 1) - 1

/-- The power of two that one unit of the smallest numbers is worth. -/
def leastExponent (f : Format) : Int := 1 - f.bias - f.fractionBits

def infinity (f : Format) : Nat := f.topField * pow2 f.fractionBits

end Format

/-- What a pattern stands for: a finite value is `significand * 2 ^ exponent`, up to its sign. -/
inductive Exact
  | notANumber
  | infinite (negative : Bool)
  | finite (negative : Bool) (significand : Nat) (exponent : Int)
deriving DecidableEq, Repr

def Exact.times (factor : Nat) : Exact → Exact
  | finite negative significand exponent => finite negative (significand * factor) exponent
  | other => other

/-- The nearest integer, for a half the one away from zero, held within the range of signed 64-bit
integers. What is not a number gives zero. -/
def Exact.nearestInt : Exact → Int
  | notANumber => 0
  | infinite negative => if negative then minInt64 else maxInt64
  | finite negative significand exponent =>
    let num := significand * pow2 exponent.toNat
    let den := pow2 (-exponent).toNat
    let rounded : Int := (2 * num + den) / (2 * den)
    max minInt64 (min (if negative then -rounded else rounded) maxInt64)

/-- The quotient `num / den` rounded to the nearest natural, a half to the even neighbour. -/
def roundDiv (num den : Nat) : Nat :=
  let quotient := num / den
  let rest := num % den
  if 2 * rest < den then quotient
  else if den < 2 * rest then quotient + 1
  else quotient + quotient % 2

def roundShift (m : Nat) : Int → Nat
  | .ofNat up => m * pow2 up
  | .negSucc down => roundDiv m (pow2 (down + 1))

/-- A number in binary interchange format `f`, by its bit pattern. -/
structure Binary (f : Format) where
  bits : BitVec f.width
deriving DecidableEq

namespace Binary

variable {f g : Format}

def ofBits (f : Format) (n : Nat) : Binary f := ⟨BitVec.ofNat _ n⟩

def toBits (x : Binary f) : Nat := x.bits.toNat

def isNegative (x : Binary f) : Bool := x.toBits / pow2 (f.exponentBits + f.fractionBits) % 2 == 1

def exponentField (x : Binary f) : Nat := x.toBits / pow2 f.fractionBits % pow2 f.exponentBits

def fractionField (x : Binary f) : Nat := x.toBits % pow2 f.fractionBits

def exact (x : Binary f) : Exact :=
  if x.exponentField == f.topField then
    if x.fractionField == 0 then .infinite x.isNegative else .notANumber
  else if x.exponentField == 0 then
    .finite x.isNegative x.fractionField f.leastExponent
  else
    .finite x.isNegative (x.fractionField + pow2 f.fractionBits)
      (f.leastExponent + (x.exponentField - 1 : Nat))

/-- The bits of the magnitude nearest to `m * 2 ^ q`. The exponent of the last place is that of the
leading bit less the width of the fraction, but never below the least one; adding the rounded
significand to the field of the place makes a carry move into the exponent by itself. -/
def magnitudeBits (f : Format) (m : Nat) (q : Int) : Nat :=
  if m == 0 then 0
  else
    let place := max (m.log2 + q - f.fractionBits) f.leastExponent
    let field := (place - f.leastExponent).toNat * pow2 f.fractionBits
    min (roundShift m (q - place) + field) f.infinity

def signBit (f : Format) (negative : Bool) : Nat :=
  if negative then pow2 (f.exponentBits + f.fractionBits) else 0

/-- The number of format `f` nearest to a value. What is not a number gets the quiet pattern with
no other bit set. -/
def ofExact (f : Format) : Exact → Binary f
  | .notANumber => ofBits f (f.infinity + pow2 (f.fractionBits - 1))
  | .infinite negative => ofBits f (signBit f negative + f.infinity)
  | .finite negative m q => ofBits f (signBit f negative + magnitudeBits f m q)

def convert (g : Format) (x : Binary f) : Binary g := ofExact g x.exact

def ofInt (f : Format) (n : Int) : Binary f := ofExact f (.finite (n < 0) n.natAbs 0)

def isFinite (x : Binary f) : Bool := x.exponentField != f.topField

def isNaN (x : Binary f) : Bool := x.exponentField == f.topField && x.fractionField != 0

def zero (f : Format) : Binary f := ofBits f 0

instance : Inhabited (Binary f) := ⟨zero f⟩

end Binary

abbrev Double := Binary .double

namespace Double

def toFloat (x : Double) : Float := Float.ofBits (UInt64.ofNat x.toBits)

/-- The bits of a machine number. -/
def ofFloat (x : Float) : Double := Binary.ofBits .double x.toBits.toNat

/-- The integer nearest to the product of a value and `factor`, itself rounded to a number. -/
def scaledInt (factor : Nat) (x : Exact) : Int :=
  (Binary.ofExact .double (x.times factor)).exact.nearestInt

def one : Double := Binary.ofInt .double 1

end Double

end Offload.Number

namespace Offload

structure Complex (R : Type) where
  re : R
  im : R
deriving DecidableEq, Repr, Inhabited

end Offload
