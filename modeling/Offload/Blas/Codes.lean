/-!
# Options of the batched routines

How a matrix is stored and which part or form of it a routine uses, with the codes that the common C
interface gives to these options.
-/

set_option autoImplicit false

namespace Offload.Blas

inductive Layout
  | rowMajor
  | columnMajor
deriving DecidableEq, Repr

instance : Inhabited Layout := ⟨.columnMajor⟩

def Layout.code : Layout → Nat
  | rowMajor => 101
  | columnMajor => 102

def Layout.name : Layout → String
  | rowMajor => "row_major"
  | columnMajor => "column_major"

inductive Transpose
  | none
  | transpose
  | conjugate
deriving DecidableEq, Repr, Inhabited

def Transpose.code : Transpose → Nat
  | none => 111
  | transpose => 112
  | conjugate => 113

def Transpose.isTransposed : Transpose → Bool
  | none => false
  | _ => true

inductive Triangle
  | upper
  | lower
deriving DecidableEq, Repr, Inhabited

def Triangle.code : Triangle → Nat
  | upper => 121
  | lower => 122

/-- The diagonal of a triangular matrix is stored, or is one throughout. -/
inductive Diagonal
  | stored
  | unit
deriving DecidableEq, Repr, Inhabited

def Diagonal.code : Diagonal → Nat
  | stored => 131
  | unit => 132

inductive Side
  | left
  | right
deriving DecidableEq, Repr, Inhabited

def Side.code : Side → Nat
  | left => 141
  | right => 142

end Offload.Blas
