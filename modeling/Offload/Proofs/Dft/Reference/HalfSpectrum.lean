import Mathlib.Data.List.Nodup
import Offload.Proofs.Dft.Reference.Results

/-!
# Real transforms are complex ones

A transform of real data leaves the first half of what the complex transform of the same numbers
leaves, and a transform back from half a spectrum leaves the real parts of what the complex one makes
of the whole. `real_refines_complex` says so for every number of elements and of transforms, with
each run on a layout of its own, and for every arithmetic: both runs do the same operations in the
same order, so nothing is known of rounding and nothing needs to be.
-/

set_option autoImplicit false

namespace Offload.Dft

open Number Reference

variable {R : Type} [Arithmetic R] {direction side : Direction} {n : Nat}

/-! ## Complex numbers in the data of a call -/

/-- A complex number in double precision is at a place: whole in an array, or in halves in two. -/
inductive Holds : List Samples → Nat → Complex (Binary .double) → Prop
  | whole {data : Samples} {p : Nat} {z : Complex (Binary .double)}
      (h : data.get? p = some (.complex .double z)) : Holds [data] p z
  | halves {re im : Samples} {p : Nat} {z : Complex (Binary .double)}
      (hre : re.get? p = some (.real .double z.re)) (him : im.get? p = some (.real .double z.im)) :
      Holds [re, im] p z

def Args.InDouble (args : Args Samples) : Prop :=
  ∀ data ∈ args.toList, data.format = .double ∧
    data.isComplex = (args.storage == .interleaved)

theorem readSample_of_complex {data : Samples} {p : Nat} {z : Complex (Binary .double)}
    (h : data.get? p = some (.complex .double z)) :
    readSample data p = some (z.load : Complex R) := by
  cases data with
  | real f xs => simp [Samples.get?] at h
  | complex f zs =>
    obtain ⟨found, hfound, hz⟩ := Option.map_eq_some_iff.mp h
    cases hz
    rw [readSample, hfound, Option.map_some]

theorem readSample_of_real {data : Samples} {p : Nat} {x : Binary .double}
    (h : data.get? p = some (.real .double x)) :
    readSample data p = some (Complex.ofReal (Arithmetic.load .double x) : Complex R) := by
  cases data with
  | complex f zs => simp [Samples.get?] at h
  | real f xs =>
    obtain ⟨found, hfound, hx⟩ := Option.map_eq_some_iff.mp h
    cases hx
    rw [readSample, hfound, Option.map_some]

theorem readInput_of_holds {args : Args Samples} {p : Nat} {z : Complex (Binary .double)}
    (h : Holds args.inputs p z) : readInput args p = some (z.load : Complex R) := by
  cases args with
  | inPlace data | outOfPlace data output =>
    cases h with
    | whole hdata => exact readSample_of_complex hdata
  | inPlaceSplit re im | outOfPlaceSplit re im outputRe outputIm =>
    cases h with
    | halves hre him =>
      simp only [readInput, readSample_of_real (R := R) hre, readSample_of_real (R := R) him]
      rfl

theorem stored_complex {data : Samples} (hformat : data.format = .double)
    (hcomplex : data.isComplex = true) (z : Complex R) :
    data.stored z = .complex .double (z.store .double) := by
  cases data with
  | real f xs => cases hcomplex
  | complex f zs =>
    cases hformat
    rfl

theorem stored_real {data : Samples} (hformat : data.format = .double)
    (hreal : data.isComplex = false) (z : Complex R) :
    data.stored z = .real .double (Arithmetic.store .double z.re) := by
  cases data with
  | complex f zs => cases hreal
  | real f xs =>
    cases hformat
    rfl

namespace Settings

variable {s real complex : Settings} {value : Nat → Nat → Complex R} {args after : Args Samples}

namespace Overwritten

variable {p b k : Nat} (hlast : s.LastAt side p b k)
include hlast

theorem holds {data data' : Samples} (h : s.Overwritten side value data data')
    (hformat : data.format = .double) (hcomplex : data.isComplex = true) :
    Holds [data'] p ((value b k).store .double) := by
  apply Holds.whole
  rw [h.get?_of_lastAt hlast, stored_complex hformat hcomplex]

theorem holds_halves {re im re' im' : Samples}
    (hre : s.Overwritten side (fun b k => realPart (value b k)) re re')
    (him : s.Overwritten side (fun b k => imaginaryPart (value b k)) im im')
    (hformat : re.format = .double ∧ im.format = .double)
    (hreal : re.isComplex = false ∧ im.isComplex = false) :
    Holds [re', im'] p ((value b k).store .double) := by
  apply Holds.halves
  · rw [hre.get?_of_lastAt hlast, stored_real hformat.1 hreal.1]
    rfl
  · rw [him.get?_of_lastAt hlast, stored_real hformat.2 hreal.2]
    rfl

end Overwritten

theorem Leaves.holds (h : s.Leaves side value args after) (hdouble : args.InDouble) {p b k : Nat}
    (hlast : s.LastAt side p b k) : Holds after.outputs p ((value b k).store .double) := by
  unfold Args.InDouble at hdouble
  cases h with
  | inPlace hdata =>
    simp only [Args.toList, List.forall_mem_cons] at hdouble
    obtain ⟨⟨hformat, hcomplex⟩, -⟩ := hdouble
    exact hdata.holds hlast hformat hcomplex
  | outOfPlace hdata =>
    simp only [Args.toList, List.forall_mem_cons] at hdouble
    obtain ⟨-, ⟨hformat, hcomplex⟩, -⟩ := hdouble
    exact hdata.holds hlast hformat hcomplex
  | inPlaceSplit hre him =>
    simp only [Args.toList, List.forall_mem_cons] at hdouble
    obtain ⟨⟨hformat, hreal⟩, ⟨hformat', hreal'⟩, -⟩ := hdouble
    exact hre.holds_halves hlast him ⟨hformat, hformat'⟩ ⟨hreal, hreal'⟩
  | outOfPlaceSplit hre him =>
    simp only [Args.toList, List.forall_mem_cons] at hdouble
    obtain ⟨-, -, ⟨hformat, hreal⟩, ⟨hformat', hreal'⟩, -⟩ := hdouble
    exact hre.holds_halves hlast him ⟨hformat, hformat'⟩ ⟨hreal, hreal'⟩

/-! ## Settings of both transforms -/

def Distinct (s : Settings) (side : Direction) : Prop :=
  ((s.grid side).map fun x => (Lattice.of s side).address x.1 x.2).Nodup

instance (s : Settings) (side : Direction) : Decidable (s.Distinct side) :=
  inferInstanceAs (Decidable (List.Nodup _))

theorem Distinct.lastAt (h : s.Distinct side) {p b k : Nat} (hplace : s.At side p b k) :
    s.LastAt side p b k := by
  refine ⟨hplace, fun b' k' hother => ?_⟩
  have hmem := mem_grid_iff.mpr ⟨hplace.transform, hplace.element⟩
  have hmem' := mem_grid_iff.mpr ⟨hother.transform, hother.element⟩
  have hsame : (b', k') = (b, k) :=
    List.inj_on_of_nodup_map h hmem' hmem (hother.address.trans hplace.address.symm)
  obtain ⟨rfl, rfl⟩ := Prod.mk.inj hsame
  exact .inr ⟨rfl, Nat.le_refl _⟩

/-- Settings of as many real and complex transforms, of the same number of elements and the same
scale. Each may have a layout of its own. -/
structure Paired (direction : Direction) (n : Nat) (real complex : Settings) : Prop where
  realDomain : real.domain = .real
  complexDomain : complex.domain = .complex
  outOfPlace : real.placement = .outOfPlace
  realLengths : real.lengths = [(n : Int)]
  complexLengths : complex.lengths = [(n : Int)]
  transforms : complex.transforms = real.transforms
  scale : complex.scale direction = real.scale direction
  realDistinct : real.Distinct direction.opposite
  complexDistinct : complex.Distinct direction.opposite

theorem Paired.count_half (paired : Paired direction n real complex) :
    count real .backward = n / 2 + 1 := by
  rw [count_eq paired.realLengths, if_pos ⟨rfl, paired.realDomain⟩]

theorem Paired.count_whole (paired : Paired direction n real complex) (side : Direction) :
    count complex side = n := by
  rw [count_eq paired.complexLengths, if_neg (by simp [paired.complexDomain])]

theorem Paired.count_forward (paired : Paired direction n real complex) :
    count real .forward = n := by
  rw [count_eq paired.realLengths, if_neg (by simp)]

structure Takes (s : Settings) (direction : Direction) (args : Args Samples) : Prop where
  inputs : ∀ data ∈ args.inputs, s.Fits direction data
  outputs : ∀ data ∈ args.outputs, s.Fits direction.opposite data

theorem Takes.exists_source (h : s.Takes direction args) {b k : Nat}
    (hb : b < s.transforms.toNat) (hk : k < count s direction) : ∃ p, s.At direction p b k := by
  obtain ⟨data, hdata⟩ := args.exists_input
  exact ⟨_, (h.inputs data hdata).at_index hb hk⟩

theorem Takes.exists_target (h : s.Takes direction args) {b k : Nat}
    (hb : b < s.transforms.toNat) (hk : k < count s direction.opposite) :
    ∃ p, s.At direction.opposite p b k := by
  obtain ⟨data, hdata⟩ : ∃ data, data ∈ args.outputs := by
    cases args <;> exact ⟨_, List.mem_cons_self ..⟩
  exact ⟨_, (h.outputs data hdata).at_index hb hk⟩

theorem At.lt_length {data : Samples} (h : s.Fits side data) {p b k : Nat}
    (hplace : s.At side p b k) : p < data.length := by
  rw [hplace.eq_index h]
  exact h.index_lt hplace.transform hplace.element

/-! ## The two runs -/

/-- The numbers that a transform reads. -/
def Reads (s : Settings) (direction : Direction) (args : Args Samples) (x : Nat → Nat → Complex R) :
    Prop :=
  ∀ p b j, s.At direction p b j → readInput args p = some (x b j)

theorem result_congr {x y : Nat → Complex R}
    (hscale : complex.scale direction = real.scale direction)
    (h : ∀ j < n, real.mirrored direction n x j = complex.mirrored direction n y j) (k : Nat) :
    real.result direction n x k = complex.result direction n y k := by
  have hsequence : (List.range n).map (real.mirrored direction n x) =
      (List.range n).map (complex.mirrored direction n y) :=
    List.map_congr_left fun j hj => h j (List.mem_range.mp hj)
  rw [result, result, ← sumAt_map_range, ← sumAt_map_range, hsequence, hscale]

/-- The output of a real transform against that of a complex one. Of each transform, the first
`width` elements are `part` of those of the complex one, and every other place is as it was. -/
structure Refines (side : Direction) (width : Nat) (part : Complex (Binary .double) → Sample)
    (real complex : Settings) (before output : Samples) (outputs : List Samples) : Prop where
  element : ∀ b < real.transforms.toNat, ∀ k < width, ∃ p q z, real.At side p b k ∧
    complex.At side q b k ∧ output.get? p = some (part z) ∧ Holds outputs q z
  others : ∀ p, (∀ b k, ¬real.At side p b k) → output.get? p = before.get? p

variable (R) in
theorem exists_refines (hn : 0 < n) (paired : Paired direction n real complex)
    {input output : Samples} (hreal : real.Takes direction (.outOfPlace input output))
    (hcomplex : complex.Takes direction args) (hdouble : args.InDouble)
    {width : Nat} (hwidth : count real direction.opposite = width)
    {part : Complex (Binary .double) → Sample}
    (hpart : ∀ z : Complex R, output.stored z = part (z.store .double))
    (hsame : ∀ x y : Nat → Nat → Complex R, real.Reads direction (.outOfPlace input output) x →
      complex.Reads direction args y → ∀ b < real.transforms.toNat, ∀ j < n,
        real.mirrored direction n (x b) j = y b j) :
    ∃ output' after,
      transform R real direction (.outOfPlace input output) =
        (.ok (), .outOfPlace input output') ∧
      transform R complex direction args = (.ok (), after) ∧
      Refines direction.opposite width part real complex output output' after.outputs := by
  have hrealForm : ¬(real.domain = .real ∧ real.placement = .inPlace) := by
    rw [paired.outOfPlace]
    rintro ⟨-, ⟨⟩⟩
  have hcomplexForm : ¬(complex.domain = .real ∧ complex.placement = .inPlace) := by
    rw [paired.complexDomain]
    rintro ⟨⟨⟩, -⟩
  obtain ⟨afterReal, hrunReal, x, hx, hleaves⟩ :=
    exists_computes R paired.realLengths hn hreal.inputs hreal.outputs hrealForm
  obtain ⟨after, hrun, y, hy, hafter⟩ :=
    exists_computes R paired.complexLengths hn hcomplex.inputs hcomplex.outputs hcomplexForm
  cases hleaves with
  | @outOfPlace _ _ output' houtput =>
    refine ⟨output', after, hrunReal, hrun, ?_, fun p => houtput.get?_of_forall_not⟩
    intro b hb k hk
    rw [← hwidth] at hk
    have hb' : b < complex.transforms.toNat := by rwa [paired.transforms]
    have hk' : k < count complex direction.opposite := by
      rw [count_eq paired.realLengths] at hk
      rw [paired.count_whole]
      split at hk <;> omega
    obtain ⟨p, hp⟩ := hreal.exists_target hb hk
    obtain ⟨q, hq⟩ := hcomplex.exists_target hb' hk'
    have hsum : real.result direction n (x b) k = complex.result direction n (y b) k := by
      refine result_congr paired.scale ?_ k
      intro j hj
      rw [hsame x y hx hy b hb j hj, mirrored, if_neg (by simp [paired.complexDomain])]
    refine ⟨p, q, _, hp, hq, ?_, hafter.holds hdouble (paired.complexDistinct.lastAt hq)⟩
    rw [houtput.get?_of_lastAt (paired.realDistinct.lastAt hp), hpart, hsum]

/-! ## Forward and back -/

/-- The complex input is the real one with imaginary parts of zero. -/
def Embeds (real complex : Settings) (input : Samples) (args : Args Samples) : Prop :=
  ∀ b j p q x, real.At .forward p b j → complex.At .forward q b j →
    input.get? p = some (.real .double x) → Holds args.inputs q ⟨x, .zero .double⟩

variable (R) in
/-- The complex input is the given half of a spectrum, and the conjugates of its elements beyond. -/
structure Completes (n : Nat) (real complex : Settings) (half : Samples) (args : Args Samples) :
    Prop where
  given : ∀ b j p q z, real.At .backward p b j → complex.At .backward q b j →
    half.get? p = some (.complex .double z) → Holds args.inputs q z
  beyond : ∀ b j p q z, n / 2 < j → real.At .backward p b (n - j) → complex.At .backward q b j →
    half.get? p = some (.complex .double z) →
    ∃ conjugate, Holds args.inputs q conjugate ∧ (conjugate.load : Complex R) = z.load.conj

theorem Reads.eq_ofReal {x : Nat → Nat → Complex R} {input output : Samples}
    (h : s.Reads direction (.outOfPlace input output) x) {p b j : Nat}
    (hplace : s.At direction p b j) {u : Binary .double}
    (hu : input.get? p = some (.real .double u)) :
    x b j = Complex.ofReal (Arithmetic.load .double u) :=
  Option.some.inj ((h p b j hplace).symm.trans (readSample_of_real hu))

theorem Reads.eq_load {x : Nat → Nat → Complex R} (h : s.Reads direction args x) {p b j : Nat}
    (hplace : s.At direction p b j) {z : Complex (Binary .double)} (hz : Holds args.inputs p z) :
    x b j = z.load :=
  Option.some.inj ((h p b j hplace).symm.trans (readInput_of_holds hz))

section Inputs

variable {output : Samples} {x y : Nat → Nat → Complex R}

theorem mirrored_of_embeds (paired : Paired .forward n real complex) {xs : Array (Binary .double)}
    (hreal : real.Takes .forward (.outOfPlace (.real .double xs) output))
    (hcomplex : complex.Takes .forward args)
    (hembeds : Embeds real complex (.real .double xs) args)
    (hx : real.Reads .forward (.outOfPlace (.real .double xs) output) x)
    (hy : complex.Reads .forward args y) :
    ∀ b < real.transforms.toNat, ∀ j < n, real.mirrored .forward n (x b) j = y b j := by
  intro b hb j hj
  have hb' : b < complex.transforms.toNat := by rwa [paired.transforms]
  obtain ⟨p, hp⟩ := hreal.exists_source hb (by rwa [paired.count_forward])
  obtain ⟨q, hq⟩ := hcomplex.exists_source hb' (by rwa [paired.count_whole])
  have hthere : p < xs.size := hp.lt_length (hreal.inputs _ (List.mem_cons_self ..))
  have hu : (Samples.real .double xs).get? p = some (.real .double xs[p]) := by
    rw [Samples.get?, Array.getElem?_eq_getElem hthere, Option.map_some]
  have hembedded := hy.eq_load hq (hembeds b j p q _ hp hq hu)
  rw [mirrored, if_neg (by simp), hx.eq_ofReal hp hu, hembedded]
  rfl

/-- An element beyond the half is read as the conjugate of its mirror image. -/
theorem mirrored_of_completes (paired : Paired .backward n real complex)
    {zs : Array (Complex (Binary .double))}
    (hreal : real.Takes .backward (.outOfPlace (.complex .double zs) output))
    (hcomplex : complex.Takes .backward args)
    (hcompletes : Completes R n real complex (.complex .double zs) args)
    (hx : real.Reads .backward (.outOfPlace (.complex .double zs) output) x)
    (hy : complex.Reads .backward args y) :
    ∀ b < real.transforms.toNat, ∀ j < n, real.mirrored .backward n (x b) j = y b j := by
  intro b hb j hj
  have hb' : b < complex.transforms.toNat := by rwa [paired.transforms]
  have hhalf : ∀ k < n / 2 + 1, ∃ p z, real.At .backward p b k ∧
      (Samples.complex .double zs).get? p = some (.complex .double z) ∧ x b k = z.load := by
    intro k hk
    obtain ⟨p, hp⟩ := hreal.exists_source hb (by rwa [paired.count_half])
    have hthere : p < zs.size := hp.lt_length (hreal.inputs _ (List.mem_cons_self ..))
    have hz : (Samples.complex .double zs).get? p = some (.complex .double zs[p]) := by
      rw [Samples.get?, Array.getElem?_eq_getElem hthere, Option.map_some]
    exact ⟨p, zs[p], hp, hz, hx.eq_load hp (.whole hz)⟩
  obtain ⟨q, hq⟩ := hcomplex.exists_source hb' (by rwa [paired.count_whole])
  by_cases hbeyond : n / 2 < j
  · obtain ⟨p, z, hp, hz, hread⟩ := hhalf (n - j) (by omega)
    obtain ⟨conjugate, hholds, hconj⟩ := hcompletes.beyond b j p q z hbeyond hp hq hz
    rw [mirrored, if_pos ⟨rfl, paired.realDomain, hbeyond⟩, hread, hy.eq_load hq hholds, hconj]
  · obtain ⟨p, z, hp, hz, hread⟩ := hhalf j (by omega)
    have hholds := hcompletes.given b j p q z hp hq hz
    rw [mirrored, if_neg (fun h => hbeyond h.2.2), hread, hy.eq_load hq hholds]

end Inputs

end Settings

open Settings

variable (R) in
/-- A real transform out of place against a complex one of the same length, count and scale. Each
run has a layout of its own, in which no two elements of the output share an address, and the
complex one any form of call. Forward, the real run leaves the first half of what the complex run
leaves for the same numbers with imaginary parts of zero. Backward, it leaves the real parts of what
the complex run leaves for the whole of its half spectrum. The operations on numbers are
arbitrary. -/
theorem real_refines_complex {n : Nat} (hn : 0 < n) {real complex : Settings}
    {args : Args Samples} (hdouble : args.InDouble) :
    (∀ (xs : Array (Binary .double)) (spectrum : Array (Complex (Binary .double))),
      Paired .forward n real complex →
      real.Takes .forward (.outOfPlace (.real .double xs) (.complex .double spectrum)) →
      complex.Takes .forward args → Embeds real complex (.real .double xs) args →
      ∃ spectrum' after,
        transform R real .forward (.outOfPlace (.real .double xs) (.complex .double spectrum)) =
          (.ok (), .outOfPlace (.real .double xs) spectrum') ∧
        transform R complex .forward args = (.ok (), after) ∧
        Refines .backward (n / 2 + 1) (.complex .double) real complex (.complex .double spectrum)
          spectrum' after.outputs) ∧
    ∀ (half : Array (Complex (Binary .double))) (xs : Array (Binary .double)),
      Paired .backward n real complex →
      real.Takes .backward (.outOfPlace (.complex .double half) (.real .double xs)) →
      complex.Takes .backward args → Completes R n real complex (.complex .double half) args →
      ∃ xs' after,
        transform R real .backward (.outOfPlace (.complex .double half) (.real .double xs)) =
          (.ok (), .outOfPlace (.complex .double half) xs') ∧
        transform R complex .backward args = (.ok (), after) ∧
        Refines .forward n (fun z => .real .double z.re) real complex (.real .double xs) xs'
          after.outputs := by
  constructor
  · intro xs spectrum paired hreal hcomplex hembeds
    exact exists_refines R hn paired hreal hcomplex hdouble paired.count_half (fun z => rfl)
      fun x y hx hy => mirrored_of_embeds paired hreal hcomplex hembeds hx hy
  · intro half xs paired hreal hcomplex hcompletes
    exact exists_refines R hn paired hreal hcomplex hdouble paired.count_forward (fun z => rfl)
      fun x y hx hy => mirrored_of_completes paired hreal hcomplex hcompletes hx hy

def realThree : Settings :=
  { Settings.initial .double .real [3] with placement := .outOfPlace }

def complexThree : Settings :=
  { Settings.initial .double .complex [3] with explicitOutputStrides := some [1, 1] }

theorem paired_three (direction : Direction) : Paired direction 3 realThree complexThree := by
  cases direction <;> constructor <;> first | rfl | decide

def threeNumbers : Array (Binary .double) :=
  #[.ofInt .double 1, .ofInt .double 2, .ofInt .double 5]

def threeHalves : Args Samples :=
  .inPlaceSplit (.real .double (threeNumbers.push (.zero .double)))
    (.real .double (Array.replicate 4 (.zero .double)))

theorem embeds_three :
    Embeds realThree complexThree (.real .double threeNumbers) threeHalves := by
  intro b j p q x hp hq hx
  have hb : b < 1 := hp.transform
  have hj : j < 3 := hp.element
  have haddress : (0 : Int) + b * 1 + j * 1 = p := hp.address
  have haddress' : (0 : Int) + b * 1 + j * 1 = q := hq.address
  obtain ⟨rfl, rfl⟩ : p = j ∧ q = j := by omega
  obtain ⟨found, hfound, hsame⟩ := Option.map_eq_some_iff.mp hx
  cases hsame
  obtain rfl | rfl | rfl : q = 0 ∨ q = 1 ∨ q = 2 := by omega
  all_goals
    cases hfound
    exact .halves rfl rfl

def halfOfThree : Array (Complex (Binary .double)) :=
  #[⟨.ofInt .double 4, .zero .double⟩, ⟨.ofInt .double 5, .ofInt .double 7⟩]

def wholeOfThree : Args Samples :=
  .inPlace (.complex .double (#[⟨.zero .double, .zero .double⟩] ++ halfOfThree ++
    #[⟨.ofInt .double 5, .ofInt .double (-7)⟩]))

theorem completes_three :
    Completes Int 3 realThree complexThree (.complex .double halfOfThree) wholeOfThree where
  given b j p q z hp hq hz := by
    have hb : b < 1 := hp.transform
    have hj : j < 2 := hp.element
    have haddress : (0 : Int) + b * 1 + j * 1 = p := hp.address
    have haddress' : (1 : Int) + b * 1 + j * 1 = q := hq.address
    obtain ⟨rfl, rfl⟩ : p = j ∧ q = j + 1 := by omega
    obtain ⟨found, hfound, hsame⟩ := Option.map_eq_some_iff.mp hz
    cases hsame
    obtain rfl | rfl : p = 0 ∨ p = 1 := by omega
    all_goals
      cases hfound
      exact .whole rfl
  beyond b j p q z hbeyond hp hq hz := by
    have hb : b < 1 := hp.transform
    have hj : j < 3 := hq.element
    have haddress : (0 : Int) + b * 1 + (3 - j : Nat) * 1 = p := hp.address
    have haddress' : (1 : Int) + b * 1 + j * 1 = q := hq.address
    obtain ⟨found, hfound, hsame⟩ := Option.map_eq_some_iff.mp hz
    cases hsame
    obtain ⟨rfl, rfl, rfl⟩ : j = 2 ∧ p = 1 ∧ q = 3 := by omega
    cases hfound
    exact ⟨⟨.ofInt .double 5, .ofInt .double (-7)⟩, .whole rfl, by decide +kernel⟩

theorem takes_three {args : Args Samples} (h : ∀ data ∈ args.toList, data.length = 4)
    (direction : Direction) : complexThree.Takes direction args := by
  have hfits : ∀ data ∈ args.toList, ∀ side, complexThree.Fits side data := by
    intro data hdata side
    refine ⟨by rw [h data hdata]; decide, ?_⟩
    rw [h data hdata]
    cases side <;> decide
  constructor
  · intro data hdata
    refine hfits data ?_ direction
    cases args <;> grind [Args.inputs, Args.toList]
  · intro data hdata
    refine hfits data ?_ direction.opposite
    cases args <;> grind [Args.outputs, Args.toList]

theorem real_refines_complex_three :
    threeHalves.InDouble ∧ wholeOfThree.InDouble ∧
    (∃ spectrum' after,
      transform Int realThree .forward
          (.outOfPlace (.real .double threeNumbers) (.complex .double halfOfThree)) =
        (.ok (), .outOfPlace (.real .double threeNumbers) spectrum') ∧
      transform Int complexThree .forward threeHalves = (.ok (), after) ∧
      Refines .backward 2 (.complex .double) realThree complexThree (.complex .double halfOfThree)
        spectrum' after.outputs) ∧
    ∃ xs' after,
      transform Int realThree .backward
          (.outOfPlace (.complex .double halfOfThree) (.real .double threeNumbers)) =
        (.ok (), .outOfPlace (.complex .double halfOfThree) xs') ∧
      transform Int complexThree .backward wholeOfThree = (.ok (), after) ∧
      Refines .forward 3 (fun z => .real .double z.re) realThree complexThree
        (.real .double threeNumbers) xs' after.outputs := by
  have hhalves : threeHalves.InDouble := by
    simp only [Args.InDouble, threeHalves, Args.toList, List.forall_mem_cons]
    exact ⟨⟨rfl, rfl⟩, ⟨rfl, rfl⟩, List.forall_mem_nil _⟩
  have hwhole : wholeOfThree.InDouble := by
    simp only [Args.InDouble, wholeOfThree, Args.toList, List.forall_mem_cons]
    exact ⟨⟨rfl, rfl⟩, List.forall_mem_nil _⟩
  have hnumbers : realThree.Fits .forward (.real .double threeNumbers) := ⟨by decide, by decide⟩
  have hhalf : realThree.Fits .backward (.complex .double halfOfThree) := ⟨by decide, by decide⟩
  have hreal : realThree.Takes .forward
      (.outOfPlace (.real .double threeNumbers) (.complex .double halfOfThree)) :=
    ⟨List.forall_mem_singleton.mpr hnumbers, List.forall_mem_singleton.mpr hhalf⟩
  have hreal' : realThree.Takes .backward
      (.outOfPlace (.complex .double halfOfThree) (.real .double threeNumbers)) :=
    ⟨List.forall_mem_singleton.mpr hhalf, List.forall_mem_singleton.mpr hnumbers⟩
  have hcomplex : complexThree.Takes .forward threeHalves := by
    apply takes_three
    simp [threeHalves, threeNumbers, Args.toList, Samples.length]
  have hcomplex' : complexThree.Takes .backward wholeOfThree := by
    apply takes_three
    simp [wholeOfThree, halfOfThree, Args.toList, Samples.length]
  have hforward := (real_refines_complex Int (by decide) hhalves).1 threeNumbers halfOfThree
    (paired_three .forward) hreal hcomplex embeds_three
  have hbackward := (real_refines_complex Int (by decide) hwhole).2 halfOfThree threeNumbers
    (paired_three .backward) hreal' hcomplex' completes_three
  exact ⟨hhalves, hwhole, hforward, hbackward⟩

end Offload.Dft
