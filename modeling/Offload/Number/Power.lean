/-!
# Powers of two and ten

The powers that binary and decimal notation are made of, on natural numbers.
-/

set_option autoImplicit false

namespace Offload.Number

def pow2 (n : Nat) : Nat := Nat.pow 2 n

def pow10 (n : Nat) : Nat := Nat.pow 10 n

end Offload.Number
