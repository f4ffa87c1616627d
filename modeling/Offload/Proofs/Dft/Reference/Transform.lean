import Offload.Proofs.Dft.Address
import Offload.Proofs.Dft.Gate

/-!
# Transforms on data that is long enough

The reference transform computes the place of every element it reads or writes by itself, in the
arithmetic of 64-bit words. Where the extents of both domains are defined, these places lie within
the extents: `index_lt`. Hence a transform whose data covers the extents finds all its elements, and
only that of real data in place fails, before it writes anything: `transform_of_realInPlace` and
`transform_of_covers`.
-/

set_option autoImplicit false

namespace Offload.Dft

open Number Reference

variable {s : Settings} {direction : Direction}

/-! ## The places of elements -/

namespace Settings

theorem shape_eq_count (hs : s.WellFormed) (hdimension : s.dimension = 1) (side : Direction) :
    s.shape side = [(count s side : Int)] := by
  obtain ⟨n, hlengths⟩ := List.length_eq_one_iff.mp hdimension
  have hpos : 0 < n := hs.lengths_pos n (by simp [hlengths])
  by_cases hhalf : side = .backward ∧ s.domain = .real
  · obtain ⟨rfl, hdomain⟩ := hhalf
    rw [shape_backward_real hdomain (show s.lengths = [] ++ [n] from hlengths), halfLength]
    simp only [count, hdomain, hlengths, List.headD_cons, List.nil_append, List.cons.injEq,
      and_true]
    omega
  · rw [shape_of_ne hhalf, hlengths]
    have hcount : count s side = n.toNat := by
      unfold count
      split
      · rename_i hdomain
        exact absurd ⟨rfl, hdomain⟩ hhalf
      · rw [hlengths]
        rfl
    rw [hcount, Int.toNat_of_nonneg (by omega)]

theorem index_eq_wrap_address (hs : s.WellFormed) (hdimension : s.dimension = 1)
    (side : Direction) (b k : Nat) :
    (Lattice.of s side).index b k = wrapWord64 (s.address side [(k : Int)] b) := by
  have hlength := hs.length_strides side
  rw [hdimension] at hlength
  obtain ⟨offset, stride, hstrides⟩ := List.length_eq_two.mp hlength
  simp only [Lattice.index, Lattice.of, address, hstrides, List.getD_cons_zero, List.getD_cons_succ,
    List.headD_cons, List.tail_cons, dot]
  congr 1
  omega

theorem index_lt (hs : s.WellFormed) (hdimension : s.dimension = 1) {side : Direction}
    {extent : Nat} (hextent : s.extent side = .ok extent) {b k : Nat}
    (hb : b < s.transforms.toNat) (hk : k < count s side) :
    (Lattice.of s side).index b k < extent := by
  obtain ⟨hstart, -, hend⟩ := hs.isGreatest_of_extent hextent
  have htouched : s.address side [(k : Int)] b ∈ s.touched side := by
    refine ⟨[(k : Int)], b, ?_, by omega, by omega, rfl⟩
    rw [shape_eq_count hs hdimension]
    exact .cons ⟨by omega, by omega⟩ .nil
  have hlow := hstart _ htouched
  have hhigh := hend htouched
  -- An address within the extent is a machine word, so the arithmetic of words finds it.
  have hbound := extent_le hextent
  have hword : InWord64 (s.address side [(k : Int)] b) := by
    refine ⟨hlow, ?_⟩
    simp only [maxWord64] at hbound
    omega
  have hindex := wrapWord64_of_inWord64 hword
  rw [index_eq_wrap_address hs hdimension]
  omega

end Settings

/-! ## Data that is read -/

def Args.inputs {β : Type} : Args β → List β
  | inPlace data => [data]
  | inPlaceSplit re im => [re, im]
  | outOfPlace input _ => [input]
  | outOfPlaceSplit inputRe inputIm _ _ => [inputRe, inputIm]

variable {R : Type} [Arithmetic R] {args after : Args Samples}

theorem exists_readSample {data : Samples} {i : Nat} (h : i < data.length) :
    ∃ z : Complex R, readSample data i = some z := by
  cases data with
  | real f xs => exact ⟨_, by rw [readSample, Array.getElem?_eq_getElem h, Option.map_some]⟩
  | complex f zs => exact ⟨_, by rw [readSample, Array.getElem?_eq_getElem h, Option.map_some]⟩

theorem exists_readSplit {re im : Samples} {i : Nat} (hre : i < re.length) (him : i < im.length) :
    ∃ a b : Complex R, readSample re i = some a ∧ readSample im i = some b := by
  obtain ⟨a, ha⟩ := exists_readSample (R := R) hre
  obtain ⟨b, hb⟩ := exists_readSample (R := R) him
  exact ⟨a, b, ha, hb⟩

theorem exists_readInput {i : Nat} (h : ∀ data ∈ args.inputs, i < data.length) :
    ∃ z : Complex R, readInput args i = some z := by
  cases args with
  | inPlace data =>
    have hdata : i < data.length := by simpa [Args.inputs] using h
    exact exists_readSample hdata
  | outOfPlace input output =>
    have hinput : i < input.length := by simpa [Args.inputs] using h
    exact exists_readSample hinput
  | inPlaceSplit re im =>
    obtain ⟨hre, him⟩ : i < re.length ∧ i < im.length := by simpa [Args.inputs] using h
    obtain ⟨a, b, ha, hb⟩ := exists_readSplit (R := R) hre him
    exact ⟨⟨a.re, b.re⟩, by simp only [readInput, ha, hb]⟩
  | outOfPlaceSplit inputRe inputIm outputRe outputIm =>
    obtain ⟨hre, him⟩ : i < inputRe.length ∧ i < inputIm.length := by simpa [Args.inputs] using h
    obtain ⟨a, b, ha, hb⟩ := exists_readSplit (R := R) hre him
    exact ⟨⟨a.re, b.re⟩, by simp only [readInput, ha, hb]⟩

theorem exists_gather {places : List Nat}
    (h : ∀ i ∈ places, ∀ data ∈ args.inputs, i < data.length) :
    ∃ zs : List (Complex R), gather args places = .ok zs := by
  induction places with
  | nil => exact ⟨[], rfl⟩
  | cons i rest ih =>
    rw [List.forall_mem_cons] at h
    obtain ⟨z, hz⟩ := exists_readInput (R := R) h.1
    obtain ⟨zs, hzs⟩ := ih h.2
    exact ⟨z :: zs, by simp only [gather, hz, hzs]⟩

/-! ## Data that is written -/

/-- The data after some writes: that which is only read is the same, and no length changed. -/
inductive Args.Rewritten : Args Samples → Args Samples → Prop
  | inPlace {data data' : Samples} : data'.length = data.length →
    Rewritten (.inPlace data) (.inPlace data')
  | inPlaceSplit {re im re' im' : Samples} : re'.length = re.length → im'.length = im.length →
    Rewritten (.inPlaceSplit re im) (.inPlaceSplit re' im')
  | outOfPlace {input output output' : Samples} : output'.length = output.length →
    Rewritten (.outOfPlace input output) (.outOfPlace input output')
  | outOfPlaceSplit {inputRe inputIm re im re' im' : Samples} : re'.length = re.length →
    im'.length = im.length →
    Rewritten (.outOfPlaceSplit inputRe inputIm re im) (.outOfPlaceSplit inputRe inputIm re' im')

namespace Args.Rewritten

theorem refl (args : Args Samples) : Rewritten args args := by
  cases args <;> constructor <;> rfl

theorem trans {first second third : Args Samples} (h : Rewritten first second)
    (h' : Rewritten second third) : Rewritten first third := by
  cases h with
  | inPlace hdata =>
    cases h' with
    | inPlace hdata' => exact .inPlace (hdata'.trans hdata)
  | inPlaceSplit hre him =>
    cases h' with
    | inPlaceSplit hre' him' => exact .inPlaceSplit (hre'.trans hre) (him'.trans him)
  | outOfPlace houtput =>
    cases h' with
    | outOfPlace houtput' => exact .outOfPlace (houtput'.trans houtput)
  | outOfPlaceSplit hre him =>
    cases h' with
    | outOfPlaceSplit hre' him' => exact .outOfPlaceSplit (hre'.trans hre) (him'.trans him)

theorem place_lt (h : Rewritten args after) {i : Nat}
    (hplace : ∀ data ∈ args.outputs, i < data.length) :
    ∀ data ∈ after.outputs, i < data.length := by
  cases h <;> simp_all [Args.outputs]

end Args.Rewritten

theorem length_writeSample (data : Samples) (i : Nat) (z : Complex R) :
    (writeSample data i z).2.length = data.length := by
  cases data with
  | real f xs =>
    unfold writeSample
    dsimp only
    split
    · exact Array.size_setIfInBounds
    · rfl
  | complex f zs =>
    unfold writeSample
    dsimp only
    split
    · exact Array.size_setIfInBounds
    · rfl

theorem writeSample_of_lt {data : Samples} {i : Nat} (h : i < data.length) (z : Complex R) :
    (writeSample data i z).1 = true := by
  cases data with
  | real f xs =>
    have hsize : i < xs.size := h
    rw [writeSample, if_pos hsize]
  | complex f zs =>
    have hsize : i < zs.size := h
    rw [writeSample, if_pos hsize]

theorem lengths_writeSplit (re im : Samples) (i : Nat) (z : Complex R) :
    (writeSplit re im i z).2.1.length = re.length ∧
      (writeSplit re im i z).2.2.length = im.length := by
  have hre := length_writeSample re i (Complex.ofReal z.re)
  have him := length_writeSample im i (Complex.ofReal z.im)
  unfold writeSplit
  cases hwrite : writeSample re i (Complex.ofReal z.re) with
  | mk done re' =>
    rw [hwrite] at hre
    cases done with
    | false => exact ⟨hre, rfl⟩
    | true => exact ⟨hre, him⟩

theorem writeSplit_of_lt {re im : Samples} {i : Nat} (hre : i < re.length) (him : i < im.length)
    (z : Complex R) : (writeSplit re im i z).1 = true := by
  have hdone := writeSample_of_lt hre (Complex.ofReal z.re)
  unfold writeSplit
  cases hwrite : writeSample re i (Complex.ofReal z.re) with
  | mk done re' =>
    rw [hwrite] at hdone
    subst hdone
    exact writeSample_of_lt him (Complex.ofReal z.im)

theorem rewritten_writeOutput (args : Args Samples) (i : Nat) (z : Complex R) :
    args.Rewritten (writeOutput args i z).2 := by
  cases args with
  | inPlace data => exact .inPlace (length_writeSample data i z)
  | inPlaceSplit re im =>
    exact .inPlaceSplit (lengths_writeSplit re im i z).1 (lengths_writeSplit re im i z).2
  | outOfPlace input output => exact .outOfPlace (length_writeSample output i z)
  | outOfPlaceSplit inputRe inputIm re im =>
    exact .outOfPlaceSplit (lengths_writeSplit re im i z).1 (lengths_writeSplit re im i z).2

theorem writeOutput_of_lt {i : Nat} (h : ∀ data ∈ args.outputs, i < data.length)
    (z : Complex R) : (writeOutput args i z).1 = true := by
  cases args with
  | inPlace data =>
    have hdata : i < data.length := by simpa [Args.outputs] using h
    exact writeSample_of_lt hdata z
  | outOfPlace input output =>
    have houtput : i < output.length := by simpa [Args.outputs] using h
    exact writeSample_of_lt houtput z
  | inPlaceSplit re im =>
    obtain ⟨hre, him⟩ : i < re.length ∧ i < im.length := by simpa [Args.outputs] using h
    exact writeSplit_of_lt hre him z
  | outOfPlaceSplit inputRe inputIm re im =>
    obtain ⟨hre, him⟩ : i < re.length ∧ i < im.length := by simpa [Args.outputs] using h
    exact writeSplit_of_lt hre him z

theorem rewritten_scatter (direction : Direction) (results : List (Nat × Complex R))
    (args : Args Samples) : args.Rewritten (scatter direction results args).2 := by
  induction results generalizing args with
  | nil => exact .refl args
  | cons result rest ih =>
    obtain ⟨i, z⟩ := result
    have hfirst := rewritten_writeOutput args i z
    unfold scatter
    cases hwrite : writeOutput args i z with
    | mk done next =>
      rw [hwrite] at hfirst
      cases done with
      | true => exact hfirst.trans (ih next)
      | false => exact hfirst

theorem scatter_of_lt {results : List (Nat × Complex R)}
    (h : ∀ result ∈ results, ∀ data ∈ args.outputs, result.1 < data.length) :
    (scatter direction results args).1 = .ok () := by
  induction results generalizing args with
  | nil => rfl
  | cons result rest ih =>
    obtain ⟨i, z⟩ := result
    rw [List.forall_mem_cons] at h
    have hdone := writeOutput_of_lt h.1 z
    have hfirst := rewritten_writeOutput args i z
    unfold scatter
    cases hwrite : writeOutput args i z with
    | mk done next =>
      rw [hwrite] at hdone hfirst
      subst hdone
      -- The write changed no length, so the places of the others are still there.
      exact ih fun other hother => hfirst.place_lt (h.2 other hother)

/-! ## The whole transform -/

/-- The data of a call is as long as the extents of the domains that it is read and written in. -/
structure Settings.Covers (s : Settings) (direction : Direction) (args : Args Samples) : Prop where
  computable : ∀ side, ∃ extent, s.extent side = .ok extent
  inputs : ∀ data ∈ args.inputs, s.extentD direction ≤ data.length
  outputs : ∀ data ∈ args.outputs, s.extentD direction.opposite ≤ data.length

namespace Settings.Covers

theorem input_lt (h : s.Covers direction args) (hs : s.WellFormed) (hdimension : s.dimension = 1)
    {b k : Nat} (hb : b < s.transforms.toNat) (hk : k < count s direction) :
    ∀ data ∈ args.inputs, (Lattice.of s direction).index b k < data.length := by
  intro data hdata
  obtain ⟨extent, hextent⟩ := h.computable direction
  have hplace := index_lt hs hdimension hextent hb hk
  have hlength := h.inputs data hdata
  rw [extentD_eq hextent] at hlength
  omega

theorem output_lt (h : s.Covers direction args) (hs : s.WellFormed) (hdimension : s.dimension = 1)
    {b k : Nat} (hb : b < s.transforms.toNat) (hk : k < count s direction.opposite) :
    ∀ data ∈ args.outputs, (Lattice.of s direction.opposite).index b k < data.length := by
  intro data hdata
  obtain ⟨extent, hextent⟩ := h.computable direction.opposite
  have hplace := index_lt hs hdimension hextent hb hk
  have hlength := h.outputs data hdata
  rw [extentD_eq hextent] at hlength
  omega

variable (R) in
theorem exists_results (h : s.Covers direction args) (hs : s.WellFormed)
    (hdimension : s.dimension = 1) {b : Nat} (hb : b < s.transforms.toNat) :
    ∃ found : List (Nat × Complex R), results s direction args b = .ok found ∧
      ∀ result ∈ found, ∀ data ∈ args.outputs, result.1 < data.length := by
  have hinputs : ∀ i ∈ (List.range (count s direction)).map ((Lattice.of s direction).index b),
      ∀ data ∈ args.inputs, i < data.length := by
    rw [List.forall_mem_map]
    intro k hk
    exact h.input_lt hs hdimension hb (List.mem_range.mp hk)
  obtain ⟨zs, hzs⟩ := exists_gather (R := R) hinputs
  refine ⟨_, by simp only [results, hzs]; rfl, ?_⟩
  rw [List.forall_mem_map]
  intro k hk
  exact h.output_lt hs hdimension hb (List.mem_range.mp hk)

variable (R) in
theorem exists_allResults (h : s.Covers direction args) (hs : s.WellFormed)
    (hdimension : s.dimension = 1) {batch : List Nat} (hb : ∀ b ∈ batch, b < s.transforms.toNat) :
    ∃ found : List (Nat × Complex R), allResults s direction args batch = .ok found ∧
      ∀ result ∈ found, ∀ data ∈ args.outputs, result.1 < data.length := by
  induction batch with
  | nil => exact ⟨[], rfl, by simp⟩
  | cons b rest ih =>
    rw [List.forall_mem_cons] at hb
    obtain ⟨here, hhere, hplaces⟩ := h.exists_results R hs hdimension hb.1
    obtain ⟨others, hothers, hplaces'⟩ := ih hb.2
    refine ⟨here ++ others, by simp only [allResults, hhere, hothers], ?_⟩
    rw [List.forall_mem_append]
    exact ⟨hplaces, hplaces'⟩

end Settings.Covers

def realInPlace (direction : Direction) : Error :=
  .unimplemented "dft" direction.task "for in-place real transforms in the reference backend"

variable (R) in
theorem transform_of_realInPlace (h : s.domain = .real ∧ s.placement = .inPlace)
    (direction : Direction) (args : Args Samples) :
    transform R s direction args = (.error (realInPlace direction), args) := by
  rw [transform, if_pos h]
  rfl

variable (R) in
/-- Any other transform succeeds if its data is long enough. -/
theorem transform_of_covers (h : s.Covers direction args) (hs : s.WellFormed)
    (hdimension : s.dimension = 1) (hreal : ¬(s.domain = .real ∧ s.placement = .inPlace)) :
    (transform R s direction args).1 = .ok () := by
  obtain ⟨found, hfound, hplaces⟩ :=
    h.exists_allResults R hs hdimension fun b hb => List.mem_range.mp hb
  simp only [transform, if_neg hreal, hfound]
  exact scatter_of_lt hplaces

variable (R) in
theorem rewritten_transform (s : Settings) (direction : Direction) (args : Args Samples) :
    args.Rewritten (transform R s direction args).2 := by
  unfold transform
  split
  · exact .refl args
  · cases (allResults s direction args (List.range s.transforms.toNat) :
        Except Nat (List (Nat × Complex R))) with
    | error i => exact .refl args
    | ok found => exact rewritten_scatter direction found args

end Offload.Dft
