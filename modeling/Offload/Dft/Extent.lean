import Offload.Dft.Settings

/-!
# Extents

The extent of a domain is the number of elements from the start of the data to the last one that a
transform touches. The data of a domain starts at an offset, has one stride for each dimension and a
distance from one transform to the next. The last dimension of the spectrum of real data holds only
the non-negative frequencies.
-/

set_option autoImplicit false

namespace Offload.Dft

open Number

inductive ExtentFault
  | tooLarge (p : Parameter)
  /-- Some element lies before the start of the data. -/
  | beforeStart (p : Parameter)
deriving DecidableEq, Repr

def ExtentFault.text : ExtentFault → String
  | tooLarge p =>
    let name := p.name
    s!"{name} address more elements than fit in memory"
  | beforeStart p =>
    let name := p.name
    s!"{name} reach before the start of the data"

/-- The number of non-negative frequencies of `n` real numbers. -/
def halfLength (n : Int) : Int := n / 2 + 1

def Settings.shape (s : Settings) (side : Direction) : List Int :=
  match side, s.domain with
  | .backward, .real =>
    match s.lengths.getLast? with
    | some n => s.lengths.dropLast ++ [halfLength n]
    | none => []
  | _, _ => s.lengths

def checked128 (n : Int) : Option Int := if InInt128 n then some n else none

/-- Extends the least and the greatest address by the reach of one dimension. -/
def extendReach (bounds : Int × Int) (n stride : Int) : Option (Int × Int) :=
  match checked128 ((n - 1) * stride) with
  | none => none
  | some reach =>
    if reach < 0 then (checked128 (bounds.1 + reach)).map fun low => (low, bounds.2)
    else (checked128 (bounds.2 + reach)).map fun high => (bounds.1, high)

def extendAll : Int × Int → List (Int × Int) → Option (Int × Int)
  | bounds, [] => some bounds
  | bounds, (n, stride) :: rest =>
    match extendReach bounds n stride with
    | none => none
    | some bounds => extendAll bounds rest

/-- The least and the greatest address that one transform touches in a domain. -/
def Settings.reach (s : Settings) (side : Direction) : Option (Int × Int) :=
  let strides := s.strides side
  let offset := strides.headD 0
  extendAll (offset, offset) ((s.shape side).zip strides.tail)

def Settings.extent (s : Settings) (side : Direction) : Except ExtentFault Nat :=
  let p := side.stridesParameter
  match s.reach side with
  | none => .error (.tooLarge p)
  | some (low, high) =>
    match checked128 (high + (s.transforms - 1) * s.distance side) with
    | none => .error (.tooLarge p)
    | some last =>
      if low < 0 then .error (.beforeStart p)
      else if InWord64 (last + 1) then .ok (last + 1).toNat
      else .error (.tooLarge p)

end Offload.Dft
