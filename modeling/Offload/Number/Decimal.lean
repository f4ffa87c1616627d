import Offload.Number.Binary

/-!
# Shortest decimal text

`Decimal.shortest` finds the decimal with the fewest digits that reads back as a given binary
number, and of those the nearest. `Decimal.text` writes it: positionally for magnitudes from `1e-4`
up to `1e16`, otherwise with a power of ten.
-/

set_option autoImplicit false

namespace Offload.Number

/-- The reals that read back as one binary number, in units of `2 ^ exponent`: those about `mid`
from `low` to `high`, with both ends when `closed`. -/
structure Interval where
  low : Nat
  mid : Nat
  high : Nat
  exponent : Int
  closed : Bool

/-- The reals that round to `m * 2 ^ q` in format `f`. The lower neighbour of a power of two is only
half as far away, except where the spacing no longer shrinks. -/
def Interval.around (f : Format) (m : Nat) (q : Int) : Interval where
  low := if m == pow2 f.fractionBits && q != f.leastExponent then 4 * m - 1 else 4 * m - 2
  mid := 4 * m
  high := 4 * m + 2
  exponent := q - 2
  closed := m % 2 == 0

structure Decimal where
  digits : Nat
  exponent : Int
deriving DecidableEq, Repr

namespace Decimal

def compareBinary (d : Decimal) (n : Nat) (q : Int) : Ordering :=
  compare (d.digits * pow10 d.exponent.toNat * pow2 (-q).toNat)
    (n * pow2 q.toNat * pow10 (-d.exponent).toNat)

def isIn (d : Decimal) (i : Interval) : Bool :=
  match d.compareBinary i.low i.exponent with
  | .lt => false
  | .eq => i.closed
  | .gt =>
    match d.compareBinary i.high i.exponent with
    | .lt => true
    | .eq => i.closed
    | .gt => false

/-- The two multiples of `10 ^ exponent` on either side of the middle of the interval, the nearer
one first and the upper one first when they are equally near. -/
def neighbours (i : Interval) (exponent : Int) : List Decimal :=
  let num := i.mid * pow2 i.exponent.toNat * pow10 (-exponent).toNat
  let den := pow10 exponent.toNat * pow2 (-i.exponent).toNat
  let lower : Decimal := ⟨num / den, exponent⟩
  let upper : Decimal := ⟨num / den + 1, exponent⟩
  if 2 * (num % den) < den then [lower, upper] else [upper, lower]

/-- The power of ten just above the middle of the interval. The logarithm of two is taken as
`0.30103`, which is exact enough for three guesses to hold it. -/
def pointPosition (i : Interval) : Int :=
  let guess := (i.mid.log2 + i.exponent) * 30103 / 100000
  match [guess, guess + 1].find? fun p => (Decimal.mk 1 p).compareBinary i.mid i.exponent == .gt with
  | some p => p
  | none => guess + 2

/-- The decimal of the fewest digits in the interval, and of those the nearest to its middle. Up to
seventeen digits are enough for every number of the formats here. -/
def shortestIn (i : Interval) : Decimal :=
  let position := pointPosition i
  let found := (List.range 17).findSome? fun k =>
    (neighbours i (position - (k + 1 : Nat))).find? (·.isIn i)
  found.getD ⟨i.mid, 0⟩

def stripZeros : Nat → Nat → Nat × Nat
  | 0, n => (n, 0)
  | fuel + 1, n =>
    if n != 0 && n % 10 == 0 then
      let (m, dropped) := stripZeros fuel (n / 10)
      (m, dropped + 1)
    else (n, 0)

def normal (d : Decimal) : Decimal :=
  let (digits, dropped) := stripZeros d.digits d.digits
  ⟨digits, d.exponent + dropped⟩

def positional (d : Decimal) : String :=
  let ds := Nat.toDigits 10 d.digits
  let position := d.exponent + ds.length
  if d.exponent ≥ 0 then
    String.ofList (ds ++ List.replicate d.exponent.toNat '0') ++ ".0"
  else if position > 0 then
    String.ofList (ds.take position.toNat) ++ "." ++ String.ofList (ds.drop position.toNat)
  else
    "0." ++ String.ofList (List.replicate (-position).toNat '0' ++ ds)

/-- One digit, a point if more follow, and the power of ten. -/
def scientific (d : Decimal) : String :=
  let ds := Nat.toDigits 10 d.digits
  let power := d.exponent + ds.length - 1
  let fraction := ds.drop 1
  String.ofList (ds.take 1) ++
    (if fraction.isEmpty then "" else "." ++ String.ofList fraction) ++ "e" ++ toString power

/-- A positive decimal, positional from `1e-4` up to `1e16`. -/
def text (d : Decimal) : String :=
  let d := d.normal
  let position := d.exponent + (Nat.toDigits 10 d.digits).length
  if -4 < position && position ≤ 16 then d.positional else d.scientific

end Decimal

/-- The shortest decimal text that reads back as the number. -/
def Binary.text {f : Format} (x : Binary f) : String :=
  match x.exact with
  | .notANumber => "NaN"
  | .infinite negative => if negative then "-inf" else "inf"
  | .finite negative m q =>
    let magnitude :=
      if m == 0 then "0.0" else (Decimal.shortestIn (Interval.around f m q)).text
    if negative then "-" ++ magnitude else magnitude

end Offload.Number
