import Offload.Number.Bounds

/-!
# Default strides

By default the data of a transform is dense and stored by rows: the last dimension has stride one and
every other one strides over all that come after it. A list of strides starts with an offset. The
length of the first dimension only bounds the data and enters no stride.
-/

set_option autoImplicit false

namespace Offload.Dft

open Number

def checkedMul (a b : Int) : Option Int := if InInt64 (a * b) then some (a * b) else none

/-- The nearest integer in the range of signed 64-bit integers. -/
def saturate (n : Int) : Int := max minInt64 (min n maxInt64)

/-- The strides of some dimensions and the stride of one more in front of them, unless a product
leaves its range. -/
def suffixStrides : List Int → Option (List Int × Int)
  | [] => some ([], 1)
  | n :: rest =>
    match suffixStrides rest with
    | none => none
    | some (strides, stride) => (checkedMul stride n).map fun next => (stride :: strides, next)

/-- The dense strides after a zero offset, unless one of them leaves its range. -/
def denseStrides : List Int → Option (List Int)
  | [] => some [0]
  | _ :: rest => (suffixStrides rest).map fun (strides, stride) => 0 :: stride :: strides

/-- The strides of some dimensions and the stride of one more in front of them, held at the ends of
their range. -/
def saturatedStrides : List Int → List Int × Int
  | [] => ([], 1)
  | n :: rest =>
    let (strides, stride) := saturatedStrides rest
    (stride :: strides, saturate (stride * n))

def defaultStrides (lengths : List Int) : List Int :=
  (denseStrides lengths).getD (0 :: (saturatedStrides lengths).1)

theorem checkedMul_eq_some_iff {a b c : Int} :
    checkedMul a b = some c ↔ InInt64 (a * b) ∧ a * b = c := by
  unfold checkedMul
  split <;> simp_all

theorem saturate_of_inInt64 {n : Int} (h : InInt64 n) : saturate n = n := by
  have := h.1
  have := h.2
  simp only [saturate, minInt64, maxInt64]
  omega

theorem length_suffixStrides {lengths strides : List Int} {next : Int}
    (h : suffixStrides lengths = some (strides, next)) : strides.length = lengths.length := by
  induction lengths generalizing strides next with
  | nil =>
    simp only [suffixStrides, Option.some.injEq, Prod.mk.injEq] at h
    rw [← h.1]
  | cons n rest ih =>
    simp only [suffixStrides] at h
    cases hr : suffixStrides rest with
    | none => simp [hr] at h
    | some found =>
      obtain ⟨tail, stride⟩ := found
      simp only [hr, Option.map_eq_some_iff, Prod.mk.injEq] at h
      obtain ⟨_, _, rfl, _⟩ := h
      simp [ih hr]

theorem length_saturatedStrides (lengths : List Int) :
    (saturatedStrides lengths).1.length = lengths.length := by
  induction lengths with
  | nil => rfl
  | cons n rest ih => simp [saturatedStrides, ih]

theorem length_defaultStrides (lengths : List Int) :
    (defaultStrides lengths).length = lengths.length + 1 := by
  unfold defaultStrides
  cases h : denseStrides lengths with
  | none => simp [length_saturatedStrides]
  | some strides =>
    cases lengths with
    | nil =>
      simp only [denseStrides, Option.some.injEq] at h
      simp [← h]
    | cons n rest =>
      simp only [denseStrides, Option.map_eq_some_iff] at h
      obtain ⟨⟨tail, stride⟩, hs, rfl⟩ := h
      simp [length_suffixStrides hs]

inductive LengthFault
  | notPositive (length : Int)
  | strideOverflow (lengths : List Int)
deriving DecidableEq, Repr

def LengthFault.text : LengthFault → String
  | notPositive length => s!"lengths must be positive, got {length}"
  | strideOverflow lengths =>
    let list := String.intercalate ", " (lengths.map toString)
    s!"lengths [{list}] overflow the default strides"

/-- Lengths are positive, and their dense strides stay in range. -/
def checkLengths (lengths : List Int) : Except LengthFault Unit :=
  match lengths.find? (· ≤ 0) with
  | some length => .error (.notPositive length)
  | none => if (denseStrides lengths).isNone then .error (.strideOverflow lengths) else .ok ()

theorem checkLengths_eq_ok_iff {lengths : List Int} :
    checkLengths lengths = .ok () ↔
      (∀ n ∈ lengths, 0 < n) ∧ (denseStrides lengths).isSome = true := by
  unfold checkLengths
  cases h : lengths.find? (· ≤ 0) with
  | some n =>
    have hn := List.find?_some h
    have hm := List.mem_of_find?_eq_some h
    simp only [reduceCtorEq, false_iff, not_and]
    intro hp
    have := hp n hm
    simp only [decide_eq_true_eq] at hn
    omega
  | none =>
    have hp : ∀ n ∈ lengths, 0 < n := by
      intro n hn
      have := List.find?_eq_none.1 h n hn
      simp only [decide_eq_true_eq] at this
      omega
    cases denseStrides lengths with
    | none => simp
    | some _ => simpa using hp

end Offload.Dft
