/-!
# Bounds of fixed-width integers

Sizes, strides and counts are integers; where a call is limited to the range of a machine word, the
range is named here and tested in front.
-/

set_option autoImplicit false

namespace Offload.Number

def minInt64 : Int := -9223372036854775808

def maxInt64 : Int := 9223372036854775807

def maxWord64 : Nat := 18446744073709551615

def InInt32 (n : Int) : Prop := -2147483648 ≤ n ∧ n < 2147483648

/-- The range of signed 64-bit integers. -/
def InInt64 (n : Int) : Prop := -9223372036854775808 ≤ n ∧ n < 9223372036854775808

def InInt128 (n : Int) : Prop :=
  -170141183460469231731687303715884105728 ≤ n ∧ n < 170141183460469231731687303715884105728

def InWord64 (n : Int) : Prop := 0 ≤ n ∧ n < 18446744073709551616

instance (n : Int) : Decidable (InInt32 n) := inferInstanceAs (Decidable (_ ∧ _))
instance (n : Int) : Decidable (InInt64 n) := inferInstanceAs (Decidable (_ ∧ _))
instance (n : Int) : Decidable (InInt128 n) := inferInstanceAs (Decidable (_ ∧ _))
instance (n : Int) : Decidable (InWord64 n) := inferInstanceAs (Decidable (_ ∧ _))

/-- The residue of `n` in the range of signed 64-bit integers. -/
def wrapInt64 (n : Int) : Int := n.bmod 18446744073709551616

def wrapWord64 (n : Int) : Nat := (n % 18446744073709551616).toNat

theorem wrapInt64_of_inInt64 {n : Int} (h : InInt64 n) : wrapInt64 n = n := by
  have := h.1
  have := h.2
  unfold wrapInt64
  rw [Int.bmod_def]
  split <;> omega

theorem wrapWord64_of_inWord64 {n : Int} (h : InWord64 n) : (wrapWord64 n : Int) = n := by
  have := h.1
  have := h.2
  unfold wrapWord64
  omega

end Offload.Number
