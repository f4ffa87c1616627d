import Offload.Blas.Call
import Offload.Error
import Offload.Number.Bounds

/-!
# Checks of the arguments

What the front-end and the backends ask of the arguments of a batched call before anything runs.
Each check passes or names its fault.
-/

set_option autoImplicit false

namespace Offload.Blas

open Number

inductive Fault
  | negativeBatch (size : Int)
  | negativeGroup (index : Nat) (size : Int)
  | groupTotalOverflow
  | entryCount (operand : String) (entries total : Nat)
  | aliasing (output input : String)
  | integerRange (argument : String) (value : Int)
  | shortOperand (operand : String) (length : Nat) (required : Int)
deriving DecidableEq, Repr

namespace Fault

def toError (routine : String) : Fault → Error
  | negativeBatch size =>
    .invalidArgument "blas" routine s!"batch_size must be non-negative, got {size}"
  | negativeGroup index size =>
    .invalidArgument "blas" routine s!"group {index} has negative size {size}"
  | groupTotalOverflow => .invalidArgument "blas" routine "total group size overflows i64"
  | entryCount operand entries total =>
    .invalidArgument "blas" routine
      s!"`{operand}` has {entries} entries but the groups cover {total}"
  | aliasing output input =>
    .invalidArgument "blas" routine s!"output `{output}` aliases input `{input}`"
  | integerRange argument value => .overflow routine argument value
  | shortOperand operand length required =>
    .invalidArgument "blas" routine
      s!"`{operand}` holds {length} elements but the call needs {required}"

end Fault

def checkBatchSize (size : Int) : Except Fault Unit :=
  if size < 0 then .error (.negativeBatch size) else .ok ()

/-- Adds the sizes of the groups from number `index` on to the total of those before. -/
def addGroups (index : Nat) (total : Int) : List Int → Except Fault Nat
  | [] => .ok total.toNat
  | size :: rest =>
    if size < 0 then .error (.negativeGroup index size)
    else if total + size ≤ maxInt64 then addGroups (index + 1) (total + size) rest
    else .error .groupTotalOverflow

def groupTotal (sizes : List Int) : Except Fault Nat := addGroups 0 0 sizes

def checkEntryCount (operand : String) (entries total : Nat) : Except Fault Unit :=
  if entries = total then .ok () else .error (.entryCount operand entries total)

def checkAliasing {σ : Type} [DecidableEq σ] (output : String × σ) (inputs : List (String × σ)) :
    Except Fault Unit :=
  match inputs.find? fun input => input.2 = output.2 with
  | some input => .error (.aliasing output.1 input.1)
  | none => .ok ()

/-- The checks of a call on buffers that reads some and writes another. -/
def checkBuffers (batchSize : Int) (output : String × Storage) (inputs : List (String × Storage)) :
    Except Fault Unit :=
  match checkBatchSize batchSize with
  | .error fault => .error fault
  | .ok () => checkAliasing output inputs

def checkEntryCounts {β : Type} (total : Nat) : List (String × List β) → Except Fault Unit
  | [] => .ok ()
  | (name, operands) :: rest =>
    match checkEntryCount name operands.length total with
    | .error fault => .error fault
    | .ok () => checkEntryCounts total rest

theorem checkEntryCounts_eq_ok_iff {β : Type} {total : Nat} {operands : List (String × List β)} :
    checkEntryCounts total operands = .ok () ↔ ∀ o ∈ operands, o.2.length = total := by
  induction operands with
  | nil => simp [checkEntryCounts]
  | cons o rest ih =>
    obtain ⟨name, entries⟩ := o
    unfold checkEntryCounts checkEntryCount
    by_cases h : entries.length = total <;> simp [h, ih]

def checkGroups {β : Type} (sizes : List Int) (operands : List (String × List β)) :
    Except Fault Unit :=
  match groupTotal sizes with
  | .error fault => .error fault
  | .ok total => checkEntryCounts total operands

/-- Every integer fits the 32-bit integers of the vendor library. -/
def checkIntegers : List (String × Int) → Except Fault Unit
  | [] => .ok ()
  | (argument, value) :: rest =>
    if InInt32 value then checkIntegers rest else .error (.integerRange argument value)

theorem checkIntegers_eq_ok_iff {integers : List (String × Int)} :
    checkIntegers integers = .ok () ↔ ∀ n ∈ integers, InInt32 n.2 := by
  induction integers with
  | nil => simp [checkIntegers]
  | cons n rest ih =>
    obtain ⟨argument, value⟩ := n
    unfold checkIntegers
    split <;> simp_all

/-- The elements that a column-major matrix of `rows` and `cols` spans with leading dimension
`ld`. -/
def matrixExtent (rows cols ld : Int) : Int :=
  if rows ≤ 0 ∨ cols ≤ 0 then 0 else max ld rows * (cols - 1) + rows

theorem matrixExtent_nonneg (rows cols ld : Int) : 0 ≤ matrixExtent rows cols ld := by
  unfold matrixExtent
  split
  · exact Int.le_refl 0
  · have : 0 ≤ max ld rows * (cols - 1) := Int.mul_nonneg (by omega) (by omega)
    omega

/-- The elements that `batch` entries of `extent` elements span at distance `stride`. -/
def stridedExtent (extent stride batch : Int) : Int :=
  if batch ≤ 0 ∨ extent = 0 then 0 else max stride 0 * (batch - 1) + extent

/-- An operand holds what the call touches. Its length is compared as a signed 64-bit integer. -/
def checkLength (operand : String) (length : Nat) (required : Int) : Except Fault Unit :=
  if wrapInt64 length < required then .error (.shortOperand operand length required) else .ok ()

end Offload.Blas
