import Offload.Dft.RocFft
import Offload.Proofs.Dft.Address
import Offload.Proofs.Dft.Gate

/-!
# The memory that vendor plans describe

A descriptor lists its dimensions from the slowest to the fastest, with signed strides; a plan of the
AMD library lists them the other way round, with unsigned ones. `planSpecs_describe` says that the
two speak of the same memory: a plan can be stated just when no stride is negative, every element
then has the same address in both, and all that the plans touch lies in data that passes the checks
of a call.
-/

set_option autoImplicit false

namespace Offload.Dft.RocFft

open Number

/-! ## Stating a plan -/

theorem toCount_eq_ok {name : String} {value : Int} {count : Nat} :
    toCount name value = .ok count ↔ 0 ≤ value ∧ count = value.toNat := by
  rw [toCount_eq_ok_iff]
  omega

theorem bind_eq_ok {ε α β : Type} {x : Except ε α} {f : α → Except ε β} {b : β} :
    x >>= f = .ok b ↔ ∃ a, x = .ok a ∧ f a = .ok b := by
  cases x with
  | error e => simp [Bind.bind, Except.bind]
  | ok a => simp [Bind.bind, Except.bind]

theorem toCounts_cons (name : String) (value : Int) (rest : List Int) :
    toCounts name (value :: rest) = do
      let count ← toCount name value
      let counts ← toCounts name rest
      return count :: counts := by
  rw [toCounts]
  cases toCount name value with
  | error e => rfl
  | ok count => cases toCounts name rest <;> rfl

theorem splitStrides_cons (name : String) (offset : Int) (rest : List Int) :
    splitStrides name (offset :: rest) = do
      let counts ← toCounts name rest.reverse
      let offset ← toCount name offset
      return (offset, counts) := by
  rw [splitStrides]
  cases toCounts name rest.reverse with
  | error e => rfl
  | ok counts => cases toCount name offset <;> rfl

theorem toCounts_eq_ok {name : String} {values : List Int} {counts : List Nat} :
    toCounts name values = .ok counts ↔
      (∀ value ∈ values, 0 ≤ value) ∧ counts = values.map Int.toNat := by
  induction values generalizing counts with
  | nil => simp [toCounts, eq_comm]
  | cons value rest ih =>
    rw [toCounts_cons, List.forall_mem_cons, List.map_cons]
    simp only [bind_eq_ok, toCount_eq_ok, ih]
    constructor
    · rintro ⟨_, ⟨hvalue, rfl⟩, _, ⟨hrest, rfl⟩, h⟩
      exact ⟨⟨hvalue, hrest⟩, (Except.ok.inj h).symm⟩
    · rintro ⟨⟨hvalue, hrest⟩, rfl⟩
      exact ⟨_, ⟨hvalue, rfl⟩, _, ⟨hrest, rfl⟩, rfl⟩

theorem splitStrides_eq_ok {name : String} {strides : List Int} {found : Nat × List Nat}
    (hne : strides ≠ []) :
    splitStrides name strides = .ok found ↔
      (∀ n ∈ strides, 0 ≤ n) ∧
        found = ((strides.headD 0).toNat, strides.tail.reverse.map Int.toNat) := by
  obtain ⟨offset, rest, rfl⟩ := List.exists_cons_of_ne_nil hne
  rw [splitStrides_cons, List.forall_mem_cons, List.headD_cons, List.tail_cons]
  simp only [bind_eq_ok, toCounts_eq_ok, toCount_eq_ok, List.mem_reverse]
  constructor
  · rintro ⟨_, ⟨hrest, rfl⟩, _, ⟨hoffset, rfl⟩, h⟩
    exact ⟨⟨hoffset, hrest⟩, (Except.ok.inj h).symm⟩
  · rintro ⟨⟨hoffset, hrest⟩, rfl⟩
    exact ⟨_, ⟨hrest, rfl⟩, _, ⟨hoffset, rfl⟩, rfl⟩

def statedSide (s : Settings) (side : Direction) : Side where
  array := arrays s side
  offset := ((s.strides side).headD 0).toNat
  strides := (s.strides side).tail.reverse.map Int.toNat
  distance := (s.distance side).toNat

def stated (s : Settings) (direction : Direction) : Rocm.PlanSpec :=
  planSpec s direction (s.lengths.reverse.map Int.toNat) s.transforms.toNat
    (statedSide s direction) (statedSide s direction.opposite)

theorem strides_ne_nil {s : Settings} (hs : s.WellFormed) (side : Direction) :
    s.strides side ≠ [] := by
  have hlength := hs.length_strides side
  intro hnil
  rw [hnil] at hlength
  cases hlength

theorem planSpecs_eq_ok_iff {s : Settings} (hs : s.WellFormed)
    {specs : Rocm.PlanSpec × Rocm.PlanSpec} :
    planSpecs s = .ok specs ↔
      ((∀ n ∈ s.inputStrides, 0 ≤ n) ∧ ∀ n ∈ s.outputStrides, 0 ≤ n) ∧
        specs = (stated s .forward, stated s .backward) := by
  have hinput := strides_ne_nil hs .forward
  have houtput := strides_ne_nil hs .backward
  have hlengths : ∀ n ∈ s.lengths.reverse, 0 ≤ n := by
    intro n hn
    exact Int.le_of_lt (hs.lengths_pos n (List.mem_reverse.1 hn))
  have htransforms := Int.le_of_lt hs.transforms_pos
  have hforward := Int.le_of_lt (hs.distance_pos .forward)
  have hbackward := Int.le_of_lt (hs.distance_pos .backward)
  simp only [Settings.strides] at hinput houtput
  simp only [Settings.distance] at hforward hbackward
  simp only [planSpecs, bind_eq_ok, toCounts_eq_ok, splitStrides_eq_ok hinput,
    splitStrides_eq_ok houtput, toCount_eq_ok, htransforms, hforward, hbackward]
  constructor
  · rintro ⟨_, ⟨-, rfl⟩, _, ⟨hin, rfl⟩, _, ⟨hout, rfl⟩, _, ⟨-, rfl⟩, _, ⟨-, rfl⟩, _, ⟨-, rfl⟩, h⟩
    exact ⟨⟨hin, hout⟩, (Except.ok.inj h).symm⟩
  · rintro ⟨⟨hin, hout⟩, rfl⟩
    exact ⟨_, ⟨hlengths, rfl⟩, _, ⟨hin, rfl⟩, _, ⟨hout, rfl⟩, _, ⟨trivial, rfl⟩, _,
      ⟨trivial, rfl⟩, _, ⟨trivial, rfl⟩, rfl⟩

/-! ## The memory of a plan -/

namespace Side

/-- The lengths of the arrays of a side, from the fastest dimension on. A Hermitian array holds only
the non-negative frequencies of its fastest dimension. -/
def shape (x : Side) (lengths : List Nat) : List Int :=
  match x.array, lengths with
  | .hermitianInterleaved, n :: rest | .hermitianPlanar, n :: rest =>
    Int.ofNat (n / 2 + 1) :: rest.map Int.ofNat
  | _, lengths => lengths.map Int.ofNat

def address (x : Side) (index : List Int) (b : Int) : Int :=
  x.offset + dot index (x.strides.map Int.ofNat) + b * x.distance

def touched (x : Side) (lengths : List Nat) (transforms : Nat) : Set Int :=
  {a | ∃ index, ∃ b : Int, InBox (x.shape lengths) index ∧ 0 ≤ b ∧ b < transforms ∧
    x.address index b = a}

theorem shape_of_ne {x : Side} (h : x.array ≠ .hermitianInterleaved ∧ x.array ≠ .hermitianPlanar)
    (lengths : List Nat) : x.shape lengths = lengths.map Int.ofNat := by
  unfold shape
  split
  · exact absurd ‹_› h.1
  · exact absurd ‹_› h.2
  · rfl

theorem shape_of_hermitian {x : Side} (h : x.array = .hermitianInterleaved) (n : Nat)
    (rest : List Nat) : x.shape (n :: rest) = Int.ofNat (n / 2 + 1) :: rest.map Int.ofNat := by
  simp only [shape, h]

end Side

def inputSide (p : Rocm.PlanSpec) : Side := ⟨p.inArray, p.inOffsets.1, p.inStrides, p.inDistance⟩

def outputSide (p : Rocm.PlanSpec) : Side :=
  ⟨p.outArray, p.outOffsets.1, p.outStrides, p.outDistance⟩

/-- The side of the plan of a direction that belongs to a domain. A plan reads the domain that its
direction starts from. -/
def domainSide (p : Rocm.PlanSpec) (direction side : Direction) : Side :=
  if side = direction then inputSide p else outputSide p

def inverse : Rocm.TransformType → Rocm.TransformType
  | .complexForward => .complexInverse
  | .complexInverse => .complexForward
  | .realForward => .realInverse
  | .realInverse => .realForward

theorem domainSide_stated (s : Settings) (direction side : Direction) :
    domainSide (stated s direction) direction side = statedSide s side := by
  cases direction <;> cases side <;> rfl

theorem arrays_ne_hermitian {s : Settings} {side : Direction}
    (h : ¬(side = .backward ∧ s.domain = .real)) :
    arrays s side ≠ .hermitianInterleaved ∧ arrays s side ≠ .hermitianPlanar := by
  unfold arrays
  cases side <;> cases hdomain : s.domain <;> cases s.storage <;> simp_all

section Stated

variable {s : Settings} (hs : s.WellFormed)
include hs

omit hs in
theorem map_ofNat_toNat {values : List Int} (h : ∀ value ∈ values, 0 ≤ value) :
    (values.map Int.toNat).map Int.ofNat = values := by
  rw [List.map_map]
  refine (List.map_congr_left ?_).trans (List.map_id values)
  intro value hv
  exact Int.toNat_of_nonneg (h value hv)

theorem shape_statedSide (side : Direction) :
    (statedSide s side).shape (s.lengths.reverse.map Int.toNat) = (s.shape side).reverse := by
  have hnonneg : ∀ n ∈ s.lengths.reverse, 0 ≤ n := by
    intro n hn
    exact Int.le_of_lt (hs.lengths_pos n (List.mem_reverse.1 hn))
  by_cases h : side = .backward ∧ s.domain = .real
  · obtain ⟨rfl, hdomain⟩ := h
    obtain ⟨front, n, hlengths⟩ := hs.exists_last
    have harray : (statedSide s .backward).array = .hermitianInterleaved := by
      simp only [statedSide, arrays, hdomain]
    -- The last length is the first of the plan, and the only one that a spectrum halves.
    have hreverse : s.lengths.reverse = n :: front.reverse := by
      rw [hlengths, List.reverse_concat]
    rw [hreverse, List.forall_mem_cons] at hnonneg
    have hhalf : Int.ofNat (n.toNat / 2 + 1) = halfLength n := by
      have hn := hnonneg.1
      rw [halfLength, Int.ofNat_eq_natCast]
      omega
    rw [Settings.shape_backward_real hdomain hlengths, hreverse, List.map_cons,
      Side.shape_of_hermitian harray, map_ofNat_toNat hnonneg.2, hhalf, List.reverse_concat]
  · rw [Side.shape_of_ne (arrays_ne_hermitian h), map_ofNat_toNat hnonneg, Settings.shape_of_ne h]

theorem address_statedSide {side : Direction} (hstrides : ∀ n ∈ s.strides side, 0 ≤ n)
    {index : List Int} (hlength : index.length = s.dimension) (b : Int) :
    (statedSide s side).address index.reverse b = s.address side index b := by
  obtain ⟨offset, rest, hsplit⟩ := List.exists_cons_of_ne_nil (strides_ne_nil hs side)
  have hnonneg := hstrides
  rw [hsplit, List.forall_mem_cons] at hnonneg
  have hoffset : 0 ≤ (s.strides side).headD 0 := by
    rw [hsplit, List.headD_cons]
    exact hnonneg.1
  have htail : ∀ n ∈ (s.strides side).tail, 0 ≤ n := by
    rw [hsplit, List.tail_cons]
    exact hnonneg.2
  have hdimension : index.length = (s.strides side).tail.length := by
    rw [hlength, List.length_tail, hs.length_strides, Nat.add_sub_cancel]
  have hreversed : ((s.strides side).tail.reverse.map Int.toNat).map Int.ofNat =
      (s.strides side).tail.reverse := map_ofNat_toNat (by simpa using htail)
  rw [Side.address, Settings.address, statedSide]
  dsimp only
  rw [hreversed, dot_reverse hdimension, Int.toNat_of_nonneg hoffset,
    Int.toNat_of_nonneg (Int.le_of_lt (hs.distance_pos side))]

/-- A plan touches the addresses that its settings speak of. -/
theorem touched_statedSide {side : Direction} (hstrides : ∀ n ∈ s.strides side, 0 ≤ n) :
    (statedSide s side).touched (s.lengths.reverse.map Int.toNat) s.transforms.toNat =
      s.touched side := by
  have htransforms := Int.toNat_of_nonneg (Int.le_of_lt hs.transforms_pos)
  ext a
  constructor
  · rintro ⟨index, b, hbox, hb, hlast, rfl⟩
    rw [shape_statedSide hs, ← List.reverse_reverse index, inBox_reverse] at hbox
    refine ⟨index.reverse, b, hbox, hb, by omega, ?_⟩
    have hlength : index.reverse.length = s.dimension := by
      rw [← hs.length_shape side, hbox.length_eq]
    rw [← address_statedSide hs hstrides hlength, List.reverse_reverse]
  · rintro ⟨index, b, hbox, hb, hlast, rfl⟩
    have hlength : index.length = s.dimension := by rw [← hs.length_shape side, hbox.length_eq]
    refine ⟨index.reverse, b, ?_, hb, by omega, address_statedSide hs hstrides hlength b⟩
    rw [shape_statedSide hs, inBox_reverse]
    exact hbox

end Stated

/-! ## What the plans of both directions say -/

def planOf (specs : Rocm.PlanSpec × Rocm.PlanSpec) : Direction → Rocm.PlanSpec
  | .forward => specs.1
  | .backward => specs.2

/-- The addresses that the plan of a direction touches in a domain. -/
def planTouched (specs : Rocm.PlanSpec × Rocm.PlanSpec) (direction side : Direction) : Set Int :=
  let p := planOf specs direction
  (domainSide p direction side).touched p.lengths p.transforms

/-- The plans of both directions speak of the memory that the settings speak of. -/
structure Describes (s : Settings) (specs : Rocm.PlanSpec × Rocm.PlanSpec) : Prop where
  sides : inputSide specs.1 = outputSide specs.2 ∧ outputSide specs.1 = inputSide specs.2
  /-- A second buffer of an array is laid out like the first. -/
  buffers : ∀ direction,
    (planOf specs direction).inOffsets.2 = (planOf specs direction).inOffsets.1 ∧
    (planOf specs direction).outOffsets.2 = (planOf specs direction).outOffsets.1
  box : ∀ direction side index,
    InBox ((domainSide (planOf specs direction) direction side).shape
      (planOf specs direction).lengths) index.reverse ↔ InBox (s.shape side) index
  address : ∀ direction side index b, index.length = s.dimension →
    (domainSide (planOf specs direction) direction side).address index.reverse b =
      s.address side index b
  /-- The plan back is the plan forth with the sides swapped. -/
  back : specs.2 = { specs.1 with
    transform := inverse specs.1.transform
    inArray := specs.1.outArray
    outArray := specs.1.inArray
    inOffsets := specs.1.outOffsets
    outOffsets := specs.1.inOffsets
    inStrides := specs.1.outStrides
    inDistance := specs.1.outDistance
    outStrides := specs.1.inStrides
    outDistance := specs.1.inDistance
    scale := s.backwardScale }
  forth : specs.1.scale = s.forwardScale ∧ specs.1.transform = transformType s .forward
  extent : ∀ direction side extent, s.extent side = .ok extent →
    IsGreatest (planTouched specs direction side) (extent - 1)

theorem planTouched_stated {s : Settings} (hs : s.WellFormed) (direction : Direction)
    {side : Direction} (hstrides : ∀ n ∈ s.strides side, 0 ≤ n) :
    planTouched (stated s .forward, stated s .backward) direction side = s.touched side := by
  rw [← touched_statedSide hs hstrides, ← domainSide_stated s direction side]
  cases direction <;> rfl

theorem describes_stated {s : Settings} (hs : s.WellFormed)
    (hstrides : ∀ side, ∀ n ∈ s.strides side, 0 ≤ n) :
    Describes s (stated s .forward, stated s .backward) where
  sides := ⟨rfl, rfl⟩
  buffers direction := by
    cases direction <;> exact ⟨rfl, rfl⟩
  box direction side index := by
    have hreverse : InBox (s.shape side).reverse index.reverse ↔ InBox (s.shape side) index :=
      inBox_reverse
    rw [← hreverse, ← shape_statedSide hs side, ← domainSide_stated s direction side]
    cases direction <;> rfl
  address direction side index b hlength := by
    rw [← address_statedSide hs (hstrides side) hlength, ← domainSide_stated s direction side]
    cases direction <;> rfl
  back := by
    cases hdomain : s.domain <;> simp [stated, planSpec, transformType, hdomain, inverse,
      Direction.opposite, Settings.scale]
  forth := ⟨rfl, rfl⟩
  extent direction side extent h := by
    rw [planTouched_stated hs direction (hstrides side)]
    exact (hs.isGreatest_of_extent h).2

/-- Data that passes the checks of a call holds all elements that the call's domains touch. -/
theorem covers_of_passed {π : Type} {d : Descriptor π} (hs : d.settings.WellFormed)
    {direction : Direction} {args : Args Samples} {c : Commitment π}
    (h : d.admit direction args = .ok c)
    (hlength : ∀ data ∈ args.toList, data.length < maxWord64) {view : View}
    (hview : view ∈ views d.settings.domain direction args) {role : Role}
    (hrole : role ∈ view.roles) {a : Int} (ha : a ∈ d.settings.touched role.side) :
    0 ≤ a ∧ role.width * (a + 1) ≤ view.length := by
  have hnone : firstFault (d.admissionChecks direction args) = none := by
    cases hf : firstFault (d.admissionChecks direction args) with
    | none => rfl
    | some fault =>
      rw [Descriptor.admit_of_fault hf] at h
      cases h
  obtain ⟨-, -, -, computable, covered⟩ := (admissionChecks_eq_none_iff hlength).1 hnone
  obtain ⟨extent, hextent⟩ := computable role.side
  obtain ⟨hstart, -, hlast⟩ := hs.isGreatest_of_extent hextent
  have hend : a ≤ extent - 1 := hlast ha
  have hwidth : role.width * extent ≤ view.length := covered view hview role hrole extent hextent
  refine ⟨hstart a ha, ?_⟩
  calc
    (role.width : Int) * (a + 1) ≤ role.width * extent :=
      Int.mul_le_mul_of_nonneg_left (by omega) (Int.natCast_nonneg _)
    _ ≤ view.length := by exact_mod_cast hwidth

/-- In every state of every run, the plans of a descriptor's settings can be stated just when no
entry of its strides is negative. They then describe the memory that the settings describe, and all
addresses that they touch lie in the data of any call that the descriptor lets through. -/
theorem planSpecs_describe {ω π : Type} [Plan ω π] (s : System ω π) (fresh : s.Fresh)
    (calls : List (Call ω π)) :
    ((∃ specs, planSpecs (s.run calls).descriptor.settings = .ok specs) ↔
      (∀ n ∈ (s.run calls).descriptor.settings.inputStrides, 0 ≤ n) ∧
        ∀ n ∈ (s.run calls).descriptor.settings.outputStrides, 0 ≤ n) ∧
    ∀ specs, planSpecs (s.run calls).descriptor.settings = .ok specs →
      Describes (s.run calls).descriptor.settings specs ∧
      ∀ direction args c, Descriptor.admit (s.run calls).descriptor direction args = .ok c →
        (∀ data ∈ args.toList, data.length < maxWord64) →
        ∀ view ∈ views (s.run calls).descriptor.settings.domain direction args,
          ∀ role ∈ view.roles, ∀ a ∈ planTouched specs direction role.side,
            0 ≤ a ∧ role.width * (a + 1) ≤ view.length := by
  have hs := System.wellFormed_run fresh calls
  constructor
  · constructor
    · rintro ⟨specs, hspecs⟩
      exact ((planSpecs_eq_ok_iff hs).1 hspecs).1
    · intro hstrides
      exact ⟨_, (planSpecs_eq_ok_iff hs).2 ⟨hstrides, rfl⟩⟩
  · intro specs hspecs
    obtain ⟨⟨hinput, houtput⟩, rfl⟩ := (planSpecs_eq_ok_iff hs).1 hspecs
    have hstrides : ∀ side, ∀ n ∈ (s.run calls).descriptor.settings.strides side, 0 ≤ n := by
      intro side
      cases side with
      | forward => exact hinput
      | backward => exact houtput
    refine ⟨describes_stated hs hstrides, ?_⟩
    intro direction args c hpassed hlength view hview role hrole a ha
    rw [planTouched_stated hs direction (hstrides role.side)] at ha
    exact covers_of_passed hs hpassed hlength hview hrole ha

theorem planSpecs_describe_real :
    let s := System.onReference ⟨Settings.initial .double .real [4, 6], none⟩
    let calls := [.set .numberOfTransforms (.int 2), .set .forwardDistance (.int 24)]
    s.Fresh ∧ ∃ specs, planSpecs (s.run calls).descriptor.settings = .ok specs ∧
      Describes (s.run calls).descriptor.settings specs := by
  intro s calls
  have fresh : s.Fresh := ⟨.double, .real, [4, 6], rfl⟩
  obtain ⟨hstated, hdescribe⟩ := planSpecs_describe s fresh calls
  obtain ⟨specs, hspecs⟩ := hstated.2 (by decide +kernel)
  exact ⟨fresh, specs, hspecs, (hdescribe specs hspecs).1⟩

end Offload.Dft.RocFft
