import Offload.Number.Binary

/-!
# Arithmetic of transforms

The operations that a transform is computed with, on a type `R` of working numbers. Nothing is
assumed of them, so what is shown for every `R` holds for machine numbers as well.
-/

set_option autoImplicit false

namespace Offload.Number

/-- Working numbers: their operations, the unit phasors, and the conversions from and to stored
numbers. -/
class Arithmetic (R : Type) where
  add : R → R → R
  sub : R → R → R
  mul : R → R → R
  neg : R → R
  /-- The complex number of modulus one at the `i`-th of `n` parts of a full turn, clockwise or
  not. -/
  phasor : (clockwise : Bool) → (i n : Nat) → Complex R
  load : (f : Format) → Binary f → R
  store : (f : Format) → R → Binary f

def pi : Float := Double.toFloat (Binary.ofBits .double 0x400921FB54442D18)

/-- Machine numbers. -/
instance : Arithmetic Float where
  add := (· + ·)
  sub := (· - ·)
  mul := (· * ·)
  neg := (- ·)
  phasor clockwise i n :=
    let sign : Float := if clockwise then -1.0 else 1.0
    let angle := sign * 2.0 * pi * i.toFloat / n.toFloat
    ⟨1.0 * angle.cos, 1.0 * angle.sin⟩
  load _ x := Double.toFloat (x.convert .double)
  store f x := (Double.ofFloat x).convert f

end Offload.Number

namespace Offload.Complex

open Number

variable {R : Type} [Arithmetic R]

def ofReal (x : R) : Complex R := ⟨x, Arithmetic.load .double (.zero .double)⟩

def zero : Complex R := ofReal (Arithmetic.load .double (.zero .double))

def add (a b : Complex R) : Complex R := ⟨Arithmetic.add a.re b.re, Arithmetic.add a.im b.im⟩

def mul (a b : Complex R) : Complex R :=
  ⟨Arithmetic.sub (Arithmetic.mul a.re b.re) (Arithmetic.mul a.im b.im),
    Arithmetic.add (Arithmetic.mul a.re b.im) (Arithmetic.mul a.im b.re)⟩

def conj (a : Complex R) : Complex R := ⟨a.re, Arithmetic.neg a.im⟩

def scale (a : Complex R) (x : R) : Complex R := ⟨Arithmetic.mul a.re x, Arithmetic.mul a.im x⟩

def load {f : Format} (z : Complex (Binary f)) : Complex R :=
  ⟨Arithmetic.load f z.re, Arithmetic.load f z.im⟩

def store (f : Format) (z : Complex R) : Complex (Binary f) :=
  ⟨Arithmetic.store f z.re, Arithmetic.store f z.im⟩

end Offload.Complex
