import Mathlib.Algebra.Ring.Int.Defs
import Offload.Proofs.Dft.WellFormed

/-!
# What parameters read back as

`Parameter.Admits` says of each parameter what it can read back as, for a precision, a domain and a
number of dimensions. `parameters_admitted` says that it does after every run: setting and committing
keep the shape of a descriptor, whether they succeed or not. The products of its lengths stay in
range, so its default strides are never held at the ends of theirs.
-/

set_option autoImplicit false

namespace Offload.Dft

open Number

/-! ## Products of lengths -/

theorem next_of_suffixStrides {lengths strides : List Int} {next : Int}
    (h : suffixStrides lengths = some (strides, next)) :
    next = lengths.prod ∧ InInt64 lengths.prod := by
  induction lengths generalizing strides next with
  | nil =>
    simp only [suffixStrides, Option.some.injEq, Prod.mk.injEq] at h
    exact ⟨h.2.symm, by decide⟩
  | cons n rest ih =>
    simp only [suffixStrides] at h
    cases hr : suffixStrides rest with
    | none => simp [hr] at h
    | some found =>
      obtain ⟨tail, stride⟩ := found
      obtain ⟨rfl, -⟩ := ih hr
      simp only [hr, Option.map_eq_some_iff, Prod.mk.injEq] at h
      obtain ⟨product, hproduct, -, rfl⟩ := h
      obtain ⟨hrange, rfl⟩ := checkedMul_eq_some_iff.1 hproduct
      rw [List.prod_cons, Int.mul_comm n]
      exact ⟨rfl, hrange⟩

theorem inInt64_prod_tail {lengths : List Int} (h : (denseStrides lengths).isSome = true) :
    InInt64 lengths.tail.prod := by
  cases lengths with
  | nil => decide
  | cons n rest =>
    simp only [denseStrides, Option.isSome_map] at h
    obtain ⟨⟨strides, next⟩, hfound⟩ := Option.isSome_iff_exists.1 h
    exact (next_of_suffixStrides hfound).2

theorem denseStrides_eq_default {lengths : List Int} (h : (denseStrides lengths).isSome = true) :
    denseStrides lengths = some (defaultStrides lengths) := by
  obtain ⟨strides, hdense⟩ := Option.isSome_iff_exists.1 h
  rw [defaultStrides, hdense, Option.getD_some]

/-! ## Admitted values -/

/-- What a parameter can read back as. -/
def Parameter.Admits (precision : Precision) (domain : Domain) (dimension : Nat) :
    Parameter → Value → Prop
  | .precision, v => v = .precision precision
  | .forwardDomain, v => v = .domain domain
  | .dimension, v => v = .int dimension
  | .lengths, v =>
    ∃ lengths, v = .ints lengths ∧ lengths.length = dimension ∧ (∀ n ∈ lengths, 0 < n) ∧
      InInt64 lengths.tail.prod
  | .inputStrides, v | .outputStrides, v =>
    ∃ strides, v = .ints strides ∧ strides.length = dimension + 1
  | .numberOfTransforms, v | .forwardDistance, v | .backwardDistance, v =>
    ∃ n, v = .int n ∧ 0 < n
  | .forwardScale, v | .backwardScale, v => ∃ x, v = .real x
  | .placement, v => v = .choice .inPlace ∨ v = .choice .notInPlace
  | .complexStorage, v => v = .choice .complexComplex ∨ v = .choice .realReal
  | .workspace, v => v = .choice .allow ∨ v = .choice .avoid
  | .commitStatus, v => v = .choice .committed ∨ v = .choice .uncommitted
  -- What has one supported value keeps its default.
  | .conjugateEvenStorage, v => v = .choice .complexComplex
  | .realStorage, v => v = .choice .realReal
  | .ordering, v => v = .choice .ordered
  | .transpose, v => v = .bool false
  | .packedFormat, v => v = .choice .cceFormat

namespace Settings

variable {s t : Settings}

theorem WellFormed.admits_get (h : s.WellFormed) (hs : s.Unvaried) (committed : Bool)
    (p : Parameter) : p.Admits s.precision s.domain s.dimension (s.get committed p) := by
  have hstrides := h.length_strides
  cases p with
  | lengths => exact ⟨s.lengths, rfl, rfl, h.lengths_pos, inInt64_prod_tail h.dense⟩
  | inputStrides => exact ⟨s.inputStrides, rfl, hstrides .forward⟩
  | outputStrides => exact ⟨s.outputStrides, rfl, hstrides .backward⟩
  | numberOfTransforms => exact ⟨s.transforms, rfl, h.transforms_pos⟩
  | forwardDistance => exact ⟨s.forwardDistance, rfl, h.distance_pos .forward⟩
  | backwardDistance => exact ⟨s.backwardDistance, rfl, h.distance_pos .backward⟩
  | forwardScale => exact ⟨s.forwardScale, rfl⟩
  | backwardScale => exact ⟨s.backwardScale, rfl⟩
  | placement =>
    simp only [Parameter.Admits, get]
    cases s.placement with
    | inPlace => exact .inl rfl
    | outOfPlace => exact .inr rfl
  | complexStorage =>
    simp only [Parameter.Admits, get]
    cases s.storage with
    | interleaved => exact .inl rfl
    | split => exact .inr rfl
  | workspace =>
    simp only [Parameter.Admits, get]
    cases s.workspace with
    | allow => exact .inl rfl
    | avoid => exact .inr rfl
  | commitStatus =>
    cases committed with
    | true => exact .inl rfl
    | false => exact .inr rfl
  | conjugateEvenStorage => exact congrArg Value.choice hs.conjugateEvenStorage
  | realStorage => exact congrArg Value.choice hs.realStorage
  | ordering => exact congrArg Value.choice hs.ordering
  | transpose => exact congrArg Value.bool hs.transpose
  | packedFormat => exact congrArg Value.choice hs.packedFormat
  | precision | forwardDomain | dimension => rfl

theorem shape_assign {p : Parameter} {v : Value} (h : s.assign p v = .ok t) :
    t.precision = s.precision ∧ t.domain = s.domain ∧ t.dimension = s.dimension := by
  cases p with
  | lengths =>
    obtain ⟨lengths, hnew, rfl⟩ := exists_of_map_eq_ok h
    have hlength : lengths.length = s.dimension := (checkLengths_of_newLengths hnew).1
    exact ⟨rfl, rfl, hlength⟩
  | inputStrides | outputStrides | forwardScale | backwardScale | numberOfTransforms
  | forwardDistance | backwardDistance | placement | complexStorage | conjugateEvenStorage
  | workspace | ordering | transpose =>
    obtain ⟨new, _, rfl⟩ := exists_of_map_eq_ok h
    exact ⟨rfl, rfl, rfl⟩
  | realStorage | packedFormat | forwardDomain | precision | dimension | commitStatus => cases h

def SplitReal (s : Settings) : Prop := s.domain = .real ∧ s.storage = .split

theorem splitReal_withScale (s : Settings) (direction : Direction) (x : Double) :
    (s.withScale direction x).SplitReal ↔ s.SplitReal := by
  cases direction <;> rfl

end Settings

/-! ## Runs -/

variable {ω π : Type}

namespace Descriptor

def Callable (d : Descriptor π) : Prop := d.isCommitted = true → ¬d.settings.SplitReal

theorem callable_set [Plan ω π] {d : Descriptor π} (p : Parameter) (v : Value) (w : ω)
    (h : d.Callable) : (d.set p v w).2.1.Callable := by
  rcases d.set_cases p v w with ⟨_, _, hset⟩ | ⟨s, _, _, hset⟩ |
    ⟨c, direction, x, hc, _, _, ⟨_, _, _, hset⟩ | ⟨plan, _, _, hset⟩⟩
  · rwa [hset]
  · intro hcommitted
    rw [hset] at hcommitted
    cases hcommitted
  · rwa [hset]
  · intro _
    have hcommitted : d.isCommitted = true := by rw [isCommitted, hc, Option.isSome_some]
    rw [hset, Settings.splitReal_withScale]
    exact h hcommitted

theorem callable_commit {d : Descriptor π} (registry : Registry (Backend ω π)) (queue : Queue)
    (w : ω) (h : d.Callable) : (d.commit registry queue w).2.1.Callable := by
  rcases d.commit_cases registry queue w with ⟨_, _, hcommit⟩ |
    ⟨hsplit, ⟨_, _, hcommit⟩ | ⟨_, _, ⟨_, _, _, hcommit⟩ | ⟨_, _, _, hcommit⟩⟩⟩
  · rwa [hcommit]
  · rwa [hcommit]
  · rwa [hcommit]
  · intro _
    rw [hcommit]
    exact hsplit

end Descriptor

namespace System

variable [Plan ω π]

theorem shape_run (s : System ω π) (calls : List (Call ω π)) :
    (s.run calls).descriptor.settings.precision = s.descriptor.settings.precision ∧
      (s.run calls).descriptor.settings.domain = s.descriptor.settings.domain ∧
      (s.run calls).descriptor.settings.dimension = s.descriptor.settings.dimension := by
  apply settings_run (P := fun t => t.precision = s.descriptor.settings.precision ∧
    t.domain = s.descriptor.settings.domain ∧ t.dimension = s.descriptor.settings.dimension)
  · intro t t' p v hassign ht
    obtain ⟨hprecision, hdomain, hdimension⟩ := Settings.shape_assign hassign
    exact ⟨hprecision.trans ht.1, hdomain.trans ht.2.1, hdimension.trans ht.2.2⟩
  · exact ⟨rfl, rfl, rfl⟩

theorem callable_run {s : System ω π} (h : s.descriptor.Callable) (calls : List (Call ω π)) :
    (s.run calls).descriptor.Callable :=
  descriptor_induction (fun _ p v w => Descriptor.callable_set p v w)
    (fun registry _ queue w => Descriptor.callable_commit registry queue w) h calls

/-- After every run, each parameter of a descriptor reads back as a value that its precision, its
domain and the number of its dimensions admit, and these are what it was made with. Its default
strides are computed without a product out of range, and it was never committed with the halves of
real data. -/
theorem parameters_admitted (s : System ω π) {precision : Precision} {domain : Domain}
    {lengths : List Int} (made : Descriptor.new precision domain lengths = .ok s.descriptor)
    (calls : List (Call ω π)) :
    (∀ p : Parameter, p.Admits precision domain lengths.length ((s.run calls).descriptor.get p)) ∧
    denseStrides (s.run calls).descriptor.settings.lengths =
      some (defaultStrides (s.run calls).descriptor.settings.lengths) ∧
    ((s.run calls).descriptor.isCommitted = true →
      ¬((s.run calls).descriptor.settings.domain = .real ∧
        (s.run calls).descriptor.settings.storage = .split)) := by
  obtain ⟨-, -, hstart⟩ := Descriptor.new_eq_ok_iff.1 made
  have hfresh : s.Fresh := ⟨precision, domain, lengths, made⟩
  have hwell := wellFormed_run hfresh calls
  have hshape := s.shape_run calls
  have hcallable : (s.run calls).descriptor.Callable := by
    apply callable_run
    intro hcommitted
    rw [hstart] at hcommitted
    cases hcommitted
  refine ⟨?_, denseStrides_eq_default hwell.dense, hcallable⟩
  intro p
  have hadmits :=
    hwell.admits_get (unvaried_run hfresh calls) (s.run calls).descriptor.isCommitted p
  rw [hstart] at hshape
  rwa [hshape.1, hshape.2.1, hshape.2.2] at hadmits

theorem parameters_admitted_halves :
    let s := onReference ⟨Settings.initial .double .real [4, 6], none⟩
    let calls := [.set .inputStrides (.ints [1, 2, 3]), .set .complexStorage (.choice .realReal),
      .commit ⟨0, Device.host⟩, .set .lengths (.ints [9, 2]), .set .lengths (.ints [0, 2]),
      .set .complexStorage (.choice .complexComplex), .commit ⟨0, Device.host⟩,
      .set .lengths (.ints [5, 5])]
    Descriptor.new .double .real [4, 6] = .ok s.descriptor ∧
      ∀ p : Parameter, p.Admits .double .real 2 ((s.run calls).descriptor.get p) := by
  intro s calls
  have made : Descriptor.new .double .real [4, 6] = .ok s.descriptor := rfl
  exact ⟨made, (parameters_admitted s made calls).1⟩

end System

end Offload.Dft
