import Offload.Proofs.Dft.Reference.LastWrite

/-!
# What a transform computes

Element `k` of transform `b` is at `offset + b * distance + k * stride`. Where the data has all
these places, a transform reads its inputs before it writes anything, and leaves in each place of
the output the last result that goes there: the scaled sum of all inputs in order, each times the
phasor of its index. `transform_computes` says this for every layout, form and arithmetic. Real
transforms in place are refused instead.
-/

set_option autoImplicit false

namespace Offload.Dft

open Number Reference

variable {R : Type} [Arithmetic R] {s : Settings} {direction side : Direction} {n : Nat}
  {args : Args Samples} {x : Nat → Nat → Complex R}

theorem forall_not_or_exists_last {α : Type} (P : α → Prop) (l : List α) :
    (∀ a ∈ l, ¬P a) ∨ ∃ before a after, l = before ++ a :: after ∧ P a ∧ ∀ c ∈ after, ¬P c := by
  induction l with
  | nil => exact .inl nofun
  | cons a rest ih =>
    obtain hnone | ⟨before, last, after, rfl, hlast⟩ := ih
    · by_cases ha : P a
      · exact .inr ⟨[], a, rest, rfl, ha, hnone⟩
      · exact .inl (List.forall_mem_cons.mpr ⟨ha, hnone⟩)
    · exact .inr ⟨a :: before, last, after, rfl, hlast⟩

/-! ## Places -/

/-- The address of an element, as an integer. -/
def Reference.Lattice.address (l : Lattice) (b k : Nat) : Int :=
  l.offset + b * l.distance + k * l.stride

namespace Settings

/-- The place of element `k` of transform `b` is `p`. -/
structure At (s : Settings) (side : Direction) (p b k : Nat) : Prop where
  transform : b < s.transforms.toNat
  element : k < count s side
  address : (Lattice.of s side).address b k = p

/-- No later element has the place. -/
def LastAt (s : Settings) (side : Direction) (p b k : Nat) : Prop :=
  s.At side p b k ∧ ∀ b' k', s.At side p b' k' → b' < b ∨ b' = b ∧ k' ≤ k

structure Fits (s : Settings) (side : Direction) (data : Samples) : Prop where
  memory : data.length ≤ maxWord64
  inside : ∀ b < s.transforms.toNat, ∀ k < count s side,
    0 ≤ (Lattice.of s side).address b k ∧ (Lattice.of s side).address b k < data.length

namespace Fits

variable {data : Samples} (h : s.Fits side data) {b k : Nat} (hb : b < s.transforms.toNat)
  (hk : k < count s side)
include h hb hk

theorem at_index : s.At side ((Lattice.of s side).index b k) b k := by
  obtain ⟨hstart, hend⟩ := h.inside b hb k hk
  have hmemory := h.memory
  have hword : InWord64 ((Lattice.of s side).address b k) := by
    unfold maxWord64 at hmemory
    constructor <;> omega
  exact ⟨hb, hk, (wrapWord64_of_inWord64 hword).symm⟩

theorem index_lt : (Lattice.of s side).index b k < data.length := by
  have hplace := (h.at_index hb hk).address
  have hend := (h.inside b hb k hk).2
  omega

end Fits

theorem At.eq_index {data : Samples} (h : s.Fits side data) {p b k : Nat}
    (hplace : s.At side p b k) : p = (Lattice.of s side).index b k := by
  have hindex := (h.at_index hplace.transform hplace.element).address
  rw [hplace.address] at hindex
  omega

/-! ## The order of writing -/

def grid (s : Settings) (side : Direction) : List (Nat × Nat) :=
  (List.range s.transforms.toNat).flatMap fun b => (List.range (count s side)).map fun k => (b, k)

theorem mem_grid_iff {b k : Nat} :
    (b, k) ∈ s.grid side ↔ b < s.transforms.toNat ∧ k < count s side := by
  simp [grid]

theorem pairwise_grid (s : Settings) (side : Direction) :
    (s.grid side).Pairwise fun x y => x.1 < y.1 ∨ x.1 = y.1 ∧ x.2 < y.2 := by
  rw [grid, List.pairwise_flatMap]
  constructor
  · intro b _
    rw [List.pairwise_map]
    exact List.pairwise_lt_range.imp fun hlt => .inr ⟨rfl, hlt⟩
  · refine List.pairwise_lt_range.imp fun hlt x hx y hy => ?_
    obtain ⟨k, -, rfl⟩ := List.mem_map.mp hx
    obtain ⟨l, -, rfl⟩ := List.mem_map.mp hy
    exact .inl hlt

/-- A place is that of no element, or there is a last element with this place, and the later ones
have others. -/
theorem exists_lastAt (s : Settings) (side : Direction) (p : Nat) :
    (∀ b k, ¬s.At side p b k) ∨ ∃ before b k after, s.grid side = before ++ (b, k) :: after ∧
      s.LastAt side p b k ∧ ∀ x ∈ after, ¬s.At side p x.1 x.2 := by
  obtain hnone | ⟨before, ⟨b, k⟩, after, hgrid, hlast, hafter⟩ :=
    forall_not_or_exists_last (fun x => s.At side p x.1 x.2) (s.grid side)
  · refine .inl fun b k h => ?_
    exact hnone (b, k) (mem_grid_iff.mpr ⟨h.transform, h.element⟩) h
  · refine .inr ⟨before, b, k, after, hgrid, ⟨hlast, ?_⟩, hafter⟩
    intro b' k' h
    have hmem : (b', k') ∈ s.grid side := mem_grid_iff.mpr ⟨h.transform, h.element⟩
    have horder := s.pairwise_grid side
    rw [hgrid] at hmem horder
    obtain hbefore | hself | hlater : (b', k') ∈ before ∨ (b', k') = (b, k) ∨ (b', k') ∈ after := by
      simpa using hmem
    · have hless := (List.pairwise_append.mp horder).2.2 _ hbefore (b, k) (List.mem_cons_self ..)
      dsimp only at hless
      omega
    · obtain ⟨rfl, rfl⟩ := Prod.mk.inj hself
      exact .inr ⟨rfl, Nat.le_refl _⟩
    · exact absurd h (hafter _ hlater)

/-! ## Results -/

/-- The elements that a sum takes, if `x` are those that are read. A spectrum of real data mirrors
its half by conjugation. -/
def mirrored (s : Settings) (direction : Direction) (n : Nat) (x : Nat → Complex R) (j : Nat) :
    Complex R :=
  if direction = .backward ∧ s.domain = .real ∧ n / 2 < j then (x (n - j)).conj else x j

/-- The result `k` of a transform of `n` elements: their sum in order, each times the phasor of its
index times `k`, and scaled. -/
def result (s : Settings) (direction : Direction) (n : Nat) (x : Nat → Complex R) (k : Nat) :
    Complex R :=
  ((List.range n).foldl (fun sum j =>
    sum.add ((s.mirrored direction n x j).mul
      (Arithmetic.phasor (direction == .forward) (j * k % n) n))) Complex.zero).scale
    (Arithmetic.load .double (s.scale direction))

theorem count_eq (hlengths : s.lengths = [(n : Int)]) (side : Direction) :
    count s side = if side = .backward ∧ s.domain = .real then n / 2 + 1 else n := by
  unfold count
  rw [hlengths, List.headD_cons, Int.toNat_natCast]
  cases side <;> cases s.domain <;> rfl

theorem gather_map {place : Nat → Nat} {x : Nat → Complex R} {js : List Nat}
    (h : ∀ j ∈ js, readInput args (place j) = some (x j)) :
    gather args (js.map place) = .ok (js.map x) := by
  induction js with
  | nil => rfl
  | cons j rest ih =>
    rw [List.forall_mem_cons] at h
    simp only [List.map_cons, gather, h.1, ih h.2]

theorem extend_map_range {half : Nat} (hhalf : n < half + half) (hn : half ≤ n)
    (x : Nat → Complex R) :
    extend n ((List.range half).map x) =
      (List.range n).map fun j => if half ≤ j then (x (n - j)).conj else x j := by
  have hsplit : List.range n = List.range half ++ (List.range (n - half)).map (half + ·) := by
    rw [← List.range_add, Nat.add_sub_cancel' hn]
  have hfirst : (List.range half).map x =
      (List.range half).map fun j => if half ≤ j then (x (n - j)).conj else x j := by
    refine List.map_congr_left fun j hj => ?_
    rw [if_neg (Nat.not_le.mpr (List.mem_range.mp hj))]
  have hsecond : ∀ d ∈ List.range (n - half),
      (((List.range half).map x)[n - (half + d)]?.getD Complex.zero).conj =
        if half ≤ half + d then (x (n - (half + d))).conj else x (half + d) := by
    intro d hd
    -- The mirror image of an element beyond the half lies in the half.
    have hmirror : n - (half + d) < half := by
      have := List.mem_range.mp hd
      omega
    rw [if_pos (Nat.le_add_right ..), List.getElem?_map, List.getElem?_range hmirror,
      Option.map_some, Option.getD_some]
  rw [extend, List.length_map, List.length_range, List.map_congr_left hsecond, hsplit,
    List.map_append, List.map_map, ← hfirst]
  rfl

theorem sequence_map_range (hlengths : s.lengths = [(n : Int)]) (hn : 0 < n)
    (direction : Direction) (x : Nat → Complex R) :
    Reference.sequence s direction ((List.range (count s direction)).map x) =
      (List.range n).map (s.mirrored direction n x) := by
  rw [count_eq hlengths]
  by_cases hhalf : direction = .backward ∧ s.domain = .real
  · obtain ⟨rfl, hdomain⟩ := hhalf
    have hmirrored : ∀ j, s.mirrored .backward n x j =
        if n / 2 + 1 ≤ j then (x (n - j)).conj else x j := by
      intro j
      simp only [mirrored, hdomain, true_and, Nat.lt_iff_add_one_le]
    simp only [Reference.sequence, hdomain, hlengths, List.headD_cons, Int.toNat_natCast, and_self,
      if_true]
    rw [extend_map_range (by omega) (by omega)]
    exact List.map_congr_left fun j _ => (hmirrored j).symm
  · have hmirrored : ∀ j, s.mirrored direction n x j = x j :=
      fun j => if_neg fun h => hhalf ⟨h.1, h.2.1⟩
    have hsequence : ∀ xs : List (Complex R), Reference.sequence s direction xs = xs := by
      intro xs
      unfold Reference.sequence
      split
      · rename_i hdomain
        exact absurd ⟨rfl, hdomain⟩ hhalf
      · rfl
    rw [if_neg hhalf, hsequence]
    exact List.map_congr_left fun j _ => (hmirrored j).symm

theorem sumAt_map_range (direction : Direction) (n : Nat) (x : Nat → Complex R) (k : Nat) :
    sumAt direction n ((List.range n).map x) k =
      (List.range n).foldl (fun sum j =>
        sum.add ((x j).mul (Arithmetic.phasor (direction == .forward) (j * k % n) n)))
        Complex.zero := by
  have hpairs : ((List.range n).map x).zipIdx = (List.range n).map fun j => (x j, j) := by
    apply List.ext_getElem
    · simp
    · simp
  rw [sumAt, hpairs, List.foldl_map]

theorem results_eq (hlengths : s.lengths = [(n : Int)]) (hn : 0 < n) {b : Nat}
    (hx : ∀ j < count s direction,
      readInput args ((Lattice.of s direction).index b j) = some (x b j)) :
    results s direction args b = .ok ((List.range (count s direction.opposite)).map fun k =>
      ((Lattice.of s direction.opposite).index b k, s.result direction n (x b) k)) := by
  have hgather : gather args ((List.range (count s direction)).map
      ((Lattice.of s direction).index b)) = .ok ((List.range (count s direction)).map (x b)) :=
    gather_map fun j hj => hx j (List.mem_range.mp hj)
  simp only [results, hgather, sequence_map_range hlengths hn, hlengths, List.headD_cons,
    Int.toNat_natCast, sumAt_map_range]
  rfl

theorem allResults_eq (hlengths : s.lengths = [(n : Int)]) (hn : 0 < n) {batch : List Nat}
    (hx : ∀ b ∈ batch, ∀ j < count s direction,
      readInput args ((Lattice.of s direction).index b j) = some (x b j)) :
    allResults s direction args batch = .ok (batch.flatMap fun b =>
      (List.range (count s direction.opposite)).map fun k =>
        ((Lattice.of s direction.opposite).index b k, s.result direction n (x b) k)) := by
  induction batch with
  | nil => rfl
  | cons b rest ih =>
    rw [List.forall_mem_cons] at hx
    simp only [allResults, results_eq hlengths hn hx.1, ih hx.2, List.flatMap_cons]

def writes (s : Settings) (side : Direction) (value : Nat → Nat → Complex R) :
    List (Nat × Complex R) :=
  (s.grid side).map fun (b, k) => ((Lattice.of s side).index b k, value b k)

omit [Arithmetic R] in
theorem writes_eq (s : Settings) (side : Direction) (value : Nat → Nat → Complex R) :
    s.writes side value = (List.range s.transforms.toNat).flatMap fun b =>
      (List.range (count s side)).map fun k => ((Lattice.of s side).index b k, value b k) := by
  simp only [writes, grid, List.map_flatMap, List.map_map, Function.comp_def]

/-! ## What is left -/

/-- An array afterwards: a place of no element is as it was, and any other has the last element with
this place, as the array stores it. -/
structure Overwritten (s : Settings) (side : Direction) (value : Nat → Nat → Complex R)
    (data after : Samples) : Prop where
  length : after.length = data.length
  get? : ∀ p, (∀ b k, ¬s.At side p b k) ∧ after.get? p = data.get? p ∨
    ∃ b k, s.LastAt side p b k ∧ after.get? p = some (data.stored (value b k))

namespace Overwritten

variable {value : Nat → Nat → Complex R} {data after : Samples} {p b k : Nat}
  (h : s.Overwritten side value data after)
include h

theorem get?_of_lastAt (hlast : s.LastAt side p b k) :
    after.get? p = some (data.stored (value b k)) := by
  obtain ⟨hnone, -⟩ | ⟨b', k', hlast', hget⟩ := h.get? p
  · exact absurd hlast.1 (hnone b k)
  · have hle := hlast.2 b' k' hlast'.1
    have hge := hlast'.2 b k hlast.1
    obtain ⟨rfl, rfl⟩ : b' = b ∧ k' = k := by omega
    exact hget

theorem get?_of_forall_not (hnone : ∀ b k, ¬s.At side p b k) : after.get? p = data.get? p := by
  obtain ⟨-, hget⟩ | ⟨b, k, hlast, -⟩ := h.get? p
  · exact hget
  · exact absurd hlast.1 (hnone b k)

end Overwritten

/-- The data of a call afterwards: what is only read is as it was, and what is written is
overwritten, halves with their parts. -/
inductive Leaves (s : Settings) (side : Direction) (value : Nat → Nat → Complex R) :
    Args Samples → Args Samples → Prop
  | inPlace {data data' : Samples} : s.Overwritten side value data data' →
    Leaves s side value (.inPlace data) (.inPlace data')
  | inPlaceSplit {re im re' im' : Samples} :
    s.Overwritten side (fun b k => realPart (value b k)) re re' →
    s.Overwritten side (fun b k => imaginaryPart (value b k)) im im' →
    Leaves s side value (.inPlaceSplit re im) (.inPlaceSplit re' im')
  | outOfPlace {input output output' : Samples} : s.Overwritten side value output output' →
    Leaves s side value (.outOfPlace input output) (.outOfPlace input output')
  | outOfPlaceSplit {inputRe inputIm re im re' im' : Samples} :
    s.Overwritten side (fun b k => realPart (value b k)) re re' →
    s.Overwritten side (fun b k => imaginaryPart (value b k)) im im' →
    Leaves s side value (.outOfPlaceSplit inputRe inputIm re im)
      (.outOfPlaceSplit inputRe inputIm re' im')

theorem overwritten_writeAll {data : Samples} (h : s.Fits side data)
    (value : Nat → Nat → Complex R) :
    s.Overwritten side value data (data.writeAll (s.writes side value)) := by
  refine ⟨Samples.length_writeAll .., fun p => ?_⟩
  have hother : ∀ elements : List (Nat × Nat), (∀ x ∈ elements, x ∈ s.grid side) →
      (∀ x ∈ elements, ¬s.At side p x.1 x.2) →
      ∀ write ∈ elements.map (fun (b, k) => ((Lattice.of s side).index b k, value b k)),
        write.1 ≠ p := by
    intro elements hgrid hnone
    rw [List.forall_mem_map]
    rintro ⟨b, k⟩ hmem rfl
    obtain ⟨hb, hk⟩ := mem_grid_iff.mp (hgrid _ hmem)
    exact hnone _ hmem (h.at_index hb hk)
  obtain hnone | ⟨before, b, k, after, hgrid, hlast, hafter⟩ := s.exists_lastAt side p
  · refine .inl ⟨hnone, Samples.get?_writeAll_of_forall_ne ?_⟩
    exact hother _ (fun _ => id) fun x _ => hnone x.1 x.2
  · refine .inr ⟨b, k, hlast, ?_⟩
    have hp := hlast.1.eq_index h
    have hlater := hother after (by simp +contextual [hgrid]) hafter
    rw [writes, hgrid, List.map_append, List.map_cons]
    dsimp only
    rw [← hp]
    refine Samples.get?_writeAll_of_last ?_ hlater
    rw [hp]
    exact h.index_lt hlast.1.transform hlast.1.element

theorem leaves_writeAll (h : ∀ data ∈ args.outputs, s.Fits side data)
    (value : Nat → Nat → Complex R) :
    s.Leaves side value args (args.writeAll (s.writes side value)) := by
  have hpart : ∀ part : Complex R → Complex R, (s.writes side value).map (Prod.map id part) =
      s.writes side fun b k => part (value b k) := by
    intro part
    rw [writes, List.map_map]
    rfl
  cases args with
  | inPlace data =>
    exact .inPlace (overwritten_writeAll (h data (by simp [Args.outputs])) value)
  | outOfPlace input output =>
    exact .outOfPlace (overwritten_writeAll (h output (by simp [Args.outputs])) value)
  | inPlaceSplit re im =>
    rw [Args.writeAll, hpart, hpart]
    exact .inPlaceSplit (overwritten_writeAll (h re (by simp [Args.outputs])) _)
      (overwritten_writeAll (h im (by simp [Args.outputs])) _)
  | outOfPlaceSplit inputRe inputIm re im =>
    rw [Args.writeAll, hpart, hpart]
    exact .outOfPlaceSplit (overwritten_writeAll (h re (by simp [Args.outputs])) _)
      (overwritten_writeAll (h im (by simp [Args.outputs])) _)

variable (R) in
/-- The data after a transform of `n` elements: the output has the results for what the input
held before. -/
def Computes (s : Settings) (direction : Direction) (n : Nat) (args after : Args Samples) : Prop :=
  ∃ x : Nat → Nat → Complex R,
    (∀ p b j, s.At direction p b j → readInput args p = some (x b j)) ∧
      s.Leaves direction.opposite (fun b k => s.result direction n (x b) k) args after

end Settings

theorem Settings.exists_reads (inputs : ∀ data ∈ args.inputs, s.Fits direction data) :
    ∃ x : Nat → Nat → Complex R, ∀ p b j, s.At direction p b j →
      readInput args p = some (x b j) := by
  have hread : ∀ b j, ∃ z : Complex R, ∀ p, s.At direction p b j → readInput args p = some z := by
    intro b j
    by_cases hplace : ∃ p, s.At direction p b j
    · obtain ⟨p, hp⟩ := hplace
      have hthere : ∀ data ∈ args.inputs, p < data.length := by
        intro data hdata
        rw [hp.eq_index (inputs data hdata)]
        exact (inputs data hdata).index_lt hp.transform hp.element
      obtain ⟨z, hz⟩ := exists_readInput (R := R) hthere
      refine ⟨z, fun q hq => ?_⟩
      have hsame : q = p := Int.ofNat_inj.mp (hq.address.symm.trans hp.address)
      rw [hsame, hz]
    · exact ⟨Complex.zero, fun p hp => absurd ⟨p, hp⟩ hplace⟩
  choose x hx using hread
  exact ⟨x, fun p b j hp => hx b j p hp⟩

theorem Args.exists_input (args : Args Samples) : ∃ data, data ∈ args.inputs := by
  cases args <;> exact ⟨_, List.mem_cons_self ..⟩

variable (R) in
theorem Settings.exists_computes (hlengths : s.lengths = [(n : Int)]) (hn : 0 < n)
    (inputs : ∀ data ∈ args.inputs, s.Fits direction data)
    (outputs : ∀ data ∈ args.outputs, s.Fits direction.opposite data)
    (hreal : ¬(s.domain = .real ∧ s.placement = .inPlace)) :
    ∃ after, transform R s direction args = (.ok (), after) ∧
      s.Computes R direction n args after := by
  obtain ⟨x, hx⟩ := exists_reads (R := R) inputs
  obtain ⟨first, hfirst⟩ := args.exists_input
  have hread : ∀ b ∈ List.range s.transforms.toNat, ∀ j < count s direction,
      readInput args ((Lattice.of s direction).index b j) = some (x b j) := by
    intro b hb j hj
    exact hx _ b j ((inputs first hfirst).at_index (List.mem_range.mp hb) hj)
  let value := fun b k => s.result direction n (x b) k
  have hresults : allResults s direction args (List.range s.transforms.toNat) =
      .ok (s.writes direction.opposite value) := by
    rw [writes_eq]
    exact allResults_eq hlengths hn hread
  have hplaces : ∀ write ∈ s.writes direction.opposite value, ∀ data ∈ args.outputs,
      write.1 < data.length := by
    rw [writes, List.forall_mem_map]
    rintro ⟨b, k⟩ hmem data hdata
    obtain ⟨hb, hk⟩ := mem_grid_iff.mp hmem
    exact (outputs data hdata).index_lt hb hk
  refine ⟨args.writeAll (s.writes direction.opposite value), ?_, x, hx, leaves_writeAll outputs _⟩
  simp only [transform, if_neg hreal, hresults]
  exact scatter_eq direction hplaces

variable (R) in
/-- A transform of `n` elements on data with a place for every element succeeds, and each place of
the output has the last result with this place, or what it had if there is none; the results are the
scaled sums over what the input held before, also in place. Real transforms in place are refused and
leave the data as it was. A spectrum of real data has the first half of the elements, and the mirror
images of the others lie in it. The operations on numbers are arbitrary. -/
theorem transform_computes (hlengths : s.lengths = [(n : Int)]) (hn : 0 < n)
    (direction : Direction) (inputs : ∀ data ∈ args.inputs, s.Fits direction data)
    (outputs : ∀ data ∈ args.outputs, s.Fits direction.opposite data) :
    (s.domain = .real ∧ s.placement = .inPlace →
        transform R s direction args = (.error (realInPlace direction), args)) ∧
      (¬(s.domain = .real ∧ s.placement = .inPlace) →
        ∃ after, transform R s direction args = (.ok (), after) ∧
          s.Computes R direction n args after) ∧
      (∀ side, count s side = if side = .backward ∧ s.domain = .real then n / 2 + 1 else n) ∧
      (s.domain = .real → ∀ j, n / 2 < j → j < n → n - j < count s .backward) := by
  refine ⟨fun hreal => transform_of_realInPlace R hreal direction args,
    s.exists_computes R hlengths hn inputs outputs, Settings.count_eq hlengths, ?_⟩
  intro hdomain j hmiddle hlast
  rw [Settings.count_eq hlengths, if_pos ⟨rfl, hdomain⟩]
  omega

instance : Arithmetic Int where
  add := (· + ·)
  sub := (· - ·)
  mul := (· * ·)
  neg := (- ·)
  phasor _ i _ := ⟨if i = 0 then 1 else -1, 0⟩
  load _ x := x.exact.nearestInt
  store f n := .ofInt f n

def overlapping : Settings := { Settings.initial .double .complex [2] with transforms := 2 }

def fourNumbers : Samples :=
  .complex .double ([1, 2, 5, 9].map fun n => ⟨.ofInt .double n, .zero .double⟩).toArray

theorem fits_fourNumbers : ∀ side, overlapping.Fits side fourNumbers := by
  intro side
  refine ⟨by decide, ?_⟩
  cases side <;> decide

theorem transform_computes_overlapping :
    overlapping.lengths = [((2 : Nat) : Int)] ∧
      (∀ side, overlapping.Fits side fourNumbers) ∧
      ∃ after, transform Int overlapping .forward (.inPlace fourNumbers) =
          (.ok (), .inPlace after) ∧
        after.get? 1 = some (.complex .double ⟨.ofInt .double 7, .zero .double⟩) ∧
        after.get? 3 = some (.complex .double ⟨.ofInt .double 9, .zero .double⟩) := by
  have inputs : ∀ data ∈ (Args.inPlace fourNumbers).inputs, overlapping.Fits .forward data :=
    List.forall_mem_singleton.mpr (fits_fourNumbers .forward)
  have outputs : ∀ data ∈ (Args.inPlace fourNumbers).outputs, overlapping.Fits .backward data :=
    List.forall_mem_singleton.mpr (fits_fourNumbers .backward)
  obtain ⟨-, hcomputed, -⟩ :=
    transform_computes Int (n := 2) rfl (by decide) .forward inputs outputs
  obtain ⟨after, htransform, x, hx, hleaves⟩ := hcomputed (by decide)
  cases hleaves with
  | inPlace hdata =>
    refine ⟨rfl, fits_fourNumbers, _, htransform, ?_, ?_⟩
    · have hlast : overlapping.LastAt .backward 1 1 0 := by
        refine ⟨⟨by decide, by decide, by decide⟩, fun b k hat => ?_⟩
        have hb : b < 2 := hat.transform
        have haddress : (0 : Int) + b * 1 + k * 1 = (1 : Nat) := hat.address
        omega
      have hfirst := hx 1 1 0 ⟨by decide, by decide, by decide⟩
      have hsecond := hx 2 1 1 ⟨by decide, by decide, by decide⟩
      have htwo : readInput (.inPlace fourNumbers) 1 = some (⟨2, 0⟩ : Complex Int) := by
        decide +kernel
      have hfive : readInput (.inPlace fourNumbers) 2 = some (⟨5, 0⟩ : Complex Int) := by
        decide +kernel
      rw [htwo, Option.some.injEq] at hfirst
      rw [hfive, Option.some.injEq] at hsecond
      have hsum : overlapping.result .forward 2 (x 1) 0 = ⟨7, 0⟩ := by
        rw [Settings.result, show List.range 2 = [0, 1] from rfl]
        simp only [List.foldl_cons, List.foldl_nil, Settings.mirrored, reduceCtorEq, false_and,
          if_false, ← hfirst, ← hsecond]
        decide +kernel
      rw [hdata.get?_of_lastAt hlast, hsum]
      decide +kernel
    · have hnone : ∀ b k, ¬overlapping.At .backward 3 b k := by
        intro b k hat
        have hb : b < 2 := hat.transform
        have hk : k < 2 := hat.element
        have haddress : (0 : Int) + b * 1 + k * 1 = (3 : Nat) := hat.address
        omega
      rw [hdata.get?_of_forall_not hnone]
      rfl

def doubling : Settings :=
  { Settings.initial .double .real [1] with forwardScale := .ofInt .double 2 }

theorem real_in_place_not_computed :
    doubling.lengths = [((1 : Nat) : Int)] ∧
      (∀ side, doubling.Fits side (.real .double #[.ofInt .double 1])) ∧
      ¬doubling.Computes Int .forward 1 (.inPlace (.real .double #[.ofInt .double 1]))
        (transform Int doubling .forward (.inPlace (.real .double #[.ofInt .double 1]))).2 := by
  have fits : ∀ side, doubling.Fits side (.real .double #[.ofInt .double 1]) := by
    intro side
    refine ⟨by decide, ?_⟩
    cases side <;> decide
  refine ⟨rfl, fits, ?_⟩
  rw [transform_of_realInPlace Int (by decide)]
  rintro ⟨x, hx, hleaves⟩
  cases hleaves with
  | inPlace hdata =>
    have hlast : doubling.LastAt .backward 0 0 0 := by
      refine ⟨⟨by decide, by decide, by decide⟩, fun b k hat => ?_⟩
      have hb : b < 1 := hat.transform
      have hk : k < 1 := hat.element
      omega
    have hread := hx 0 0 0 ⟨by decide, by decide, by decide⟩
    have hone : readInput (.inPlace (.real .double #[.ofInt .double 1])) 0 =
        some (⟨1, 0⟩ : Complex Int) := by
      decide +kernel
    rw [hone, Option.some.injEq] at hread
    have hsum : doubling.result .forward 1 (x 0) 0 = ⟨2, 0⟩ := by
      rw [Settings.result, show List.range 1 = [0] from rfl]
      simp only [List.foldl_cons, List.foldl_nil, Settings.mirrored, reduceCtorEq, false_and,
        if_false, ← hread]
      decide +kernel
    have hget := hdata.get?_of_lastAt hlast
    rw [hsum] at hget
    exact absurd hget (by decide +kernel)

end Offload.Dft
