import Offload.Proofs.Dft.Reference.Transform

/-!
# What a list of writes leaves

A transform writes its results one by one. In an array, a place that none of them has keeps its
element, and any other place has the last result written to it, as the array stores it:
`get?_writeAll_of_forall_ne` and `get?_writeAll_of_last`. Writing to a call in one of its four forms
is writing to its arrays, each with its part of the results: `scatter_eq`.
-/

set_option autoImplicit false

namespace Offload.Dft

open Number Reference

/-- One stored element. -/
inductive Sample
  | real (f : Format) (x : Binary f)
  | complex (f : Format) (z : Complex (Binary f))
deriving DecidableEq

variable {R : Type} [Arithmetic R]

/-! ## One array -/

namespace Samples

/-- The element at a place. -/
def get? : Samples → Nat → Option Sample
  | real f xs, p => xs[p]?.map (.real f)
  | complex f zs, p => zs[p]?.map (.complex f)

/-- A number as the data stores it. Real data keeps the real part. -/
def stored (data : Samples) (z : Complex R) : Sample :=
  match data with
  | real f _ => .real f (Arithmetic.store f z.re)
  | complex f _ => .complex f (z.store f)

def writeAll : List (Nat × Complex R) → Samples → Samples
  | [], data => data
  | (p, z) :: rest, data => writeAll rest (writeSample data p z).2

variable {data : Samples} {p q : Nat}

theorem stored_writeSample (data : Samples) (p : Nat) (z y : Complex R) :
    (writeSample data p z).2.stored y = data.stored y := by
  cases data with
  | real f xs =>
    unfold writeSample
    dsimp only
    split <;> rfl
  | complex f zs =>
    unfold writeSample
    dsimp only
    split <;> rfl

theorem get?_writeSample_self (h : p < data.length) (z : Complex R) :
    (writeSample data p z).2.get? p = some (data.stored z) := by
  cases data with
  | real f xs =>
    have hsize : p < xs.size := h
    simp [writeSample, get?, stored, hsize]
  | complex f zs =>
    have hsize : p < zs.size := h
    simp [writeSample, get?, stored, hsize]

theorem get?_writeSample_of_ne (h : p ≠ q) (z : Complex R) :
    (writeSample data p z).2.get? q = data.get? q := by
  cases data with
  | real f xs =>
    unfold writeSample
    dsimp only
    split
    · rw [get?, get?, Array.getElem?_setIfInBounds_ne h]
    · rfl
  | complex f zs =>
    unfold writeSample
    dsimp only
    split
    · rw [get?, get?, Array.getElem?_setIfInBounds_ne h]
    · rfl

theorem length_writeAll (writes : List (Nat × Complex R)) (data : Samples) :
    (writeAll writes data).length = data.length := by
  induction writes generalizing data with
  | nil => rfl
  | cons write rest ih =>
    obtain ⟨p, z⟩ := write
    rw [writeAll, ih, length_writeSample]

theorem stored_writeAll (writes : List (Nat × Complex R)) (data : Samples) (y : Complex R) :
    (writeAll writes data).stored y = data.stored y := by
  induction writes generalizing data with
  | nil => rfl
  | cons write rest ih =>
    obtain ⟨p, z⟩ := write
    rw [writeAll, ih, stored_writeSample]

theorem writeAll_append (first second : List (Nat × Complex R)) (data : Samples) :
    writeAll (first ++ second) data = writeAll second (writeAll first data) := by
  induction first generalizing data with
  | nil => rfl
  | cons write rest ih =>
    obtain ⟨p, z⟩ := write
    rw [List.cons_append, writeAll, writeAll, ih]

theorem get?_writeAll_of_forall_ne {writes : List (Nat × Complex R)}
    (h : ∀ write ∈ writes, write.1 ≠ q) : (writeAll writes data).get? q = data.get? q := by
  induction writes generalizing data with
  | nil => rfl
  | cons write rest ih =>
    obtain ⟨p, z⟩ := write
    rw [List.forall_mem_cons] at h
    rw [writeAll, ih h.2, get?_writeSample_of_ne h.1]

theorem get?_writeAll_of_last {before after : List (Nat × Complex R)} {z : Complex R}
    (hp : p < data.length) (hafter : ∀ write ∈ after, write.1 ≠ p) :
    (writeAll (before ++ (p, z) :: after) data).get? p = some (data.stored z) := by
  have hthere : p < (writeAll before data).length := by rwa [length_writeAll]
  rw [writeAll_append, writeAll, get?_writeAll_of_forall_ne hafter, get?_writeSample_self hthere,
    stored_writeAll]

end Samples

/-! ## The data of a call -/

def realPart (z : Complex R) : Complex R := .ofReal z.re

def imaginaryPart (z : Complex R) : Complex R := .ofReal z.im

def Args.writeAll (results : List (Nat × Complex R)) : Args Samples → Args Samples
  | inPlace data => inPlace (data.writeAll results)
  | inPlaceSplit re im =>
    inPlaceSplit (re.writeAll (results.map (Prod.map id realPart)))
      (im.writeAll (results.map (Prod.map id imaginaryPart)))
  | outOfPlace input output => outOfPlace input (output.writeAll results)
  | outOfPlaceSplit inputRe inputIm re im =>
    outOfPlaceSplit inputRe inputIm (re.writeAll (results.map (Prod.map id realPart)))
      (im.writeAll (results.map (Prod.map id imaginaryPart)))

theorem writeSplit_snd_of_lt {re im : Samples} {p : Nat} (hre : p < re.length) (z : Complex R) :
    (writeSplit re im p z).2 =
      ((writeSample re p (realPart z)).2, (writeSample im p (imaginaryPart z)).2) := by
  have hdone := writeSample_of_lt hre (realPart z)
  unfold realPart at hdone ⊢
  unfold writeSplit
  cases hwrite : writeSample re p (Complex.ofReal z.re) with
  | mk done re' =>
    rw [hwrite] at hdone
    subst hdone
    rfl

theorem writeOutput_eq {args : Args Samples} {p : Nat}
    (h : ∀ data ∈ args.outputs, p < data.length) (z : Complex R) :
    writeOutput args p z = (true, args.writeAll [(p, z)]) := by
  have hdone := writeOutput_of_lt h z
  refine Prod.ext hdone ?_
  cases args with
  | inPlace data => rfl
  | outOfPlace input output => rfl
  | inPlaceSplit re im =>
    have hre : p < re.length := h re (List.mem_cons_self ..)
    simp only [writeOutput, writeSplit_snd_of_lt hre]
    rfl
  | outOfPlaceSplit inputRe inputIm re im =>
    have hre : p < re.length := h re (List.mem_cons_self ..)
    simp only [writeOutput, writeSplit_snd_of_lt hre]
    rfl

theorem Args.writeAll_cons (p : Nat) (z : Complex R) (rest : List (Nat × Complex R))
    (args : Args Samples) :
    args.writeAll ((p, z) :: rest) = (args.writeAll [(p, z)]).writeAll rest := by
  cases args <;> rfl

theorem scatter_eq (direction : Direction) {results : List (Nat × Complex R)}
    {args : Args Samples}
    (h : ∀ result ∈ results, ∀ data ∈ args.outputs, result.1 < data.length) :
    scatter direction results args = (.ok (), args.writeAll results) := by
  induction results generalizing args with
  | nil => cases args <;> rfl
  | cons result rest ih =>
    obtain ⟨p, z⟩ := result
    rw [List.forall_mem_cons] at h
    have hwrite := writeOutput_eq h.1 z
    have hfirst := rewritten_writeOutput args p z
    rw [hwrite] at hfirst
    simp only [scatter, hwrite]
    rw [ih fun other hother => hfirst.place_lt (h.2 other hother), ← Args.writeAll_cons]

end Offload.Dft
