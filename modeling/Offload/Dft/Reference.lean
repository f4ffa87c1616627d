import Offload.Dft.Backend
import Offload.Number.Arithmetic

/-!
# The reference backend

A backend for the host that computes one-dimensional transforms by their definition: each result is
the scaled sum of all inputs, each times a unit phasor. All inputs are read before any result is
written. Real transforms in place are refused by the task.
-/

set_option autoImplicit false

namespace Offload.Dft.Reference

open Number

/-- Where the elements of one domain live: the `k`-th element of the `b`-th transform is at
`offset + b * distance + k * stride`. -/
structure Lattice where
  offset : Int
  distance : Int
  stride : Int
deriving DecidableEq, Repr

namespace Lattice

def of (s : Settings) (side : Direction) : Lattice :=
  let strides := s.strides side
  ⟨strides.getD 0 0, s.distance side, strides.getD 1 0⟩

/-- The index of an element, in the arithmetic of 64-bit words. -/
def index (l : Lattice) (b k : Nat) : Nat := wrapWord64 (l.offset + b * l.distance + k * l.stride)

end Lattice

variable {R : Type} [Arithmetic R]

/-! ## Reading and writing data -/

def readSample (data : Samples) (i : Nat) : Option (Complex R) :=
  match data with
  | .real f xs => xs[i]?.map fun x => Complex.ofReal (Arithmetic.load f x)
  | .complex _ zs => zs[i]?.map Complex.load

/-- The input element of a call as a complex number. Of split data, it takes the real parts of the
elements of both halves. -/
def readInput (args : Args Samples) (i : Nat) : Option (Complex R) :=
  let joined := fun re im : Samples =>
    match (readSample re i : Option (Complex R)), (readSample im i : Option (Complex R)) with
    | some a, some b => some (⟨a.re, b.re⟩ : Complex R)
    | _, _ => none
  match args with
  | .inPlace data => readSample data i
  | .inPlaceSplit re im => joined re im
  | .outOfPlace input _ => readSample input i
  | .outOfPlaceSplit inputRe inputIm _ _ => joined inputRe inputIm

/-- The data with one element replaced, and whether there is such an element. Real data keeps the
real part. -/
def writeSample (data : Samples) (i : Nat) (z : Complex R) : Bool × Samples :=
  match data with
  | .real f xs =>
    if i < xs.size then (true, .real f (xs.setIfInBounds i (Arithmetic.store f z.re)))
    else (false, data)
  | .complex f zs =>
    if i < zs.size then (true, .complex f (zs.setIfInBounds i (z.store f))) else (false, data)

/-- Split data with one element replaced, and whether both halves have such an element. The real
half comes first, and the imaginary one only if that went well. -/
def writeSplit (re im : Samples) (i : Nat) (z : Complex R) : Bool × Samples × Samples :=
  match writeSample re i (Complex.ofReal z.re) with
  | (false, re) => (false, re, im)
  | (true, re) =>
    let (done, im) := writeSample im i (Complex.ofReal z.im)
    (done, re, im)

def writeOutput (args : Args Samples) (i : Nat) (z : Complex R) : Bool × Args Samples :=
  match args with
  | .inPlace data =>
    let (done, data) := writeSample data i z
    (done, .inPlace data)
  | .inPlaceSplit re im =>
    let (done, re, im) := writeSplit re im i z
    (done, .inPlaceSplit re im)
  | .outOfPlace input output =>
    let (done, output) := writeSample output i z
    (done, .outOfPlace input output)
  | .outOfPlaceSplit inputRe inputIm outputRe outputIm =>
    let (done, outputRe, outputIm) := writeSplit outputRe outputIm i z
    (done, .outOfPlaceSplit inputRe inputIm outputRe outputIm)

def missing (direction : Direction) (which : String) (i : Nat) : Error :=
  .invalidArgument "dft" direction.task s!"{which} has no element {i}"

/-! ## The transform -/

def count (s : Settings) (side : Direction) : Nat :=
  let n := (s.lengths.headD 0).toNat
  match side, s.domain with
  | .backward, .real => n / 2 + 1
  | _, _ => n

/-- The elements at some indices of the input, or the first index where there is none. -/
def gather (args : Args Samples) : List Nat → Except Nat (List (Complex R))
  | [] => .ok []
  | i :: rest =>
    match (readInput args i : Option (Complex R)) with
    | none => .error i
    | some z =>
      match gather args rest with
      | .error i => .error i
      | .ok zs => .ok (z :: zs)

/-- A sequence of `n` elements whose first half is given. The second half mirrors the first by
conjugation. -/
def extend (n : Nat) (half : List (Complex R)) : List (Complex R) :=
  half ++ (List.range (n - half.length)).map fun d =>
    ((half[n - (half.length + d)]?).getD Complex.zero).conj

/-- The sequence that one transform works on. The spectrum of real data is given by its half. -/
def sequence (s : Settings) (direction : Direction) (xs : List (Complex R)) : List (Complex R) :=
  match direction, s.domain with
  | .backward, .real => extend (s.lengths.headD 0).toNat xs
  | _, _ => xs

/-- The `k`-th result of the transform of a sequence, not scaled: the sum, in order, of each element
times the phasor of its index times `k`, reduced to one turn. -/
def sumAt (direction : Direction) (n : Nat) (xs : List (Complex R)) (k : Nat) : Complex R :=
  xs.zipIdx.foldl (fun sum (x, j) =>
    sum.add (x.mul (Arithmetic.phasor (direction == .forward) (j * k % n) n))) Complex.zero

def results (s : Settings) (direction : Direction) (args : Args Samples) (b : Nat) :
    Except Nat (List (Nat × Complex R)) :=
  let source := Lattice.of s direction
  let target := Lattice.of s direction.opposite
  let n := (s.lengths.headD 0).toNat
  match gather args ((List.range (count s direction)).map (source.index b)) with
  | .error i => .error i
  | .ok xs =>
    let xs := sequence s direction xs
    let scale : R := Arithmetic.load .double (s.scale direction)
    .ok ((List.range (count s direction.opposite)).map fun k =>
      (target.index b k, (sumAt direction n xs k).scale scale))

def allResults (s : Settings) (direction : Direction) (args : Args Samples) :
    List Nat → Except Nat (List (Nat × Complex R))
  | [] => .ok []
  | b :: rest =>
    match (results s direction args b : Except Nat (List (Nat × Complex R))) with
    | .error i => .error i
    | .ok here =>
      match allResults s direction args rest with
      | .error i => .error i
      | .ok others => .ok (here ++ others)

/-- Writes results one by one, up to the first that has no place. -/
def scatter (direction : Direction) : List (Nat × Complex R) → Args Samples →
    Except Error Unit × Args Samples
  | [], args => (.ok (), args)
  | (i, z) :: rest, args =>
    match writeOutput args i z with
    | (true, args) => scatter direction rest args
    | (false, args) => (.error (missing direction "output" i), args)

variable (R) in
/-- The task of a transform; returns how it went and the data afterwards. -/
def transform (s : Settings) (direction : Direction) (args : Args Samples) :
    Except Error Unit × Args Samples :=
  if s.domain = .real ∧ s.placement = .inPlace then
    (.error (.unimplemented "dft" direction.task
      "for in-place real transforms in the reference backend"), args)
  else
    match (allResults s direction args (List.range s.transforms.toNat) :
        Except Nat (List (Nat × Complex R))) with
    | .error i => (.error (missing direction "input" i), args)
    | .ok results => scatter direction results args

/-! ## Plans -/

/-- A plan: the settings it was made for, with the scales in force. -/
structure ReferencePlan where
  settings : Settings
  fixedScales : Bool

instance {ν : Type} : Plan (Machine ν) ReferencePlan where
  execute plan queue direction args dependencies machine :=
    let (event, machine, args) :=
      machine.submit queue direction.task dependencies (transform Float plan.settings direction) args
    (.ok event, args, machine)
  setScale plan direction x machine :=
    if plan.fixedScales then (.error (fixedScale direction), machine)
    else (.ok { plan with settings := plan.settings.withScale direction x }, machine)

def plan (fixedScales : Bool) (s : Settings) : Except Error ReferencePlan :=
  if s.dimension = 1 then .ok ⟨s, fixedScales⟩
  else
    let dimension := s.dimension
    .error (.unimplemented "dft" "commit"
      s!"for {dimension}-D transforms in the reference backend")

/-- The backend; `embed` makes its plans part of a larger type of plans. -/
def backend {ω π : Type} (embed : ReferencePlan → π) (fixedScales : Bool) : Backend ω π where
  name := "reference"
  supports device := device.isHost
  commit _ s := fun w => ((plan fixedScales s).map embed, w)

end Offload.Dft.Reference
