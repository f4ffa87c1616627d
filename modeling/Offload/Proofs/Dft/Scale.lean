import Offload.Proofs.Dft.Representation
import Offload.Proofs.Number.Nearest

/-!
# Finite scales

A scale is checked to be finite as it is given, and rounded to the precision of the transform
afterwards. In double precision that keeps it finite. In single precision it does not: from
`2 ^ 128 - 2 ^ 103` on it is rounded to infinity. `scale_isFinite_iff` says that nothing else makes
a scale infinite, in every state of every run.
-/

set_option autoImplicit false

namespace Offload.Dft

open Number

/-! ## Rounding to a precision -/

namespace Precision

theorem regular_format (p : Precision) : p.format.Regular := by
  cases p with
  | single => exact Format.regular_single
  | double => exact Format.regular_double

theorem within_double (p : Precision) : p.format.Within .double := by
  cases p with
  | single => exact Format.single_within_double
  | double => exact Format.within_refl _

theorem isFinite_round_iff (p : Precision) (x : Double) :
    (p.round x).isFinite = true ↔ x.isFinite = true ∧ x.magnitude < p.format.overflow := by
  have hp := p.regular_format
  have hnarrow := Binary.isFinite_convert_iff Format.regular_double hp x
  rw [round, Binary.isFinite_convert_iff hp Format.regular_double, ← hnarrow]
  apply and_iff_left_of_imp
  intro hfinite
  exact lt_of_lt_of_le (Binary.magnitude_lt_overflow hp hfinite) p.within_double.overflow

/-- The number of the precision that `x` is rounded to, wherever it is kept. -/
def Nearest (p : Precision) (x kept : Double) : Prop :=
  ∃ z : Binary p.format, z.RoundsTo x.isNegative x.value ∧ kept.Same z

theorem nearest_round (p : Precision) {x : Double} (hx : x.isFinite = true) :
    p.Nearest x (p.round x) := by
  have hp := p.regular_format
  have hrounds := Binary.roundsTo_convert Format.regular_double hp hx
  exact ⟨_, hrounds, Binary.same_convert hp Format.regular_double p.within_double hrounds.isNaN⟩

/-- The precision has a finite number nearest to the number that a value stands for. -/
def Holds (v : Value) : Precision → Prop
  | single => ∀ x ∈ v.asReal, x.magnitude < 2 ^ 128 - 2 ^ 103
  | double => True

theorem isFinite_round_iff_holds (p : Precision) {v : Value} {x : Double} (hv : v.asReal = some x)
    (hx : x.isFinite = true) : (p.round x).isFinite = true ↔ p.Holds v := by
  rw [isFinite_round_iff, and_iff_right hx]
  cases p with
  | single =>
    rw [format, Format.overflow_single, Holds, hv]
    simp
  | double => exact iff_of_true (Binary.magnitude_lt_overflow Format.regular_double hx) trivial

end Precision

/-! ## Scales that were given -/

def Direction.scaleParameter : Direction → Parameter
  | forward => .forwardScale
  | backward => .backwardScale

theorem Direction.scaleDirection_scaleParameter (direction : Direction) :
    direction.scaleParameter.scaleDirection? = some direction := by
  cases direction <;> rfl

namespace Settings

variable {s t : Settings} {direction : Direction} {v : Value}

theorem scale_assign (h : s.assign direction.scaleParameter v = .ok t) :
    ∃ x, v.asReal = some x ∧ x.isFinite = true ∧ t.scale direction = s.precision.round x := by
  obtain ⟨y, hnew, rfl⟩ :=
    Descriptor.assign_scale direction.scaleDirection_scaleParameter h
  unfold newScale at hnew
  split at hnew
  · cases hnew
  · rename_i x hv
    split at hnew
    · rename_i hx
      refine ⟨x, hv, hx, ?_⟩
      rw [scale_withScale_self, Except.ok.inj hnew]
    · cases hnew

theorem scale_assign_of_ne {p : Parameter} (hp : p ≠ direction.scaleParameter)
    (h : s.assign p v = .ok t) : t.scale direction = s.scale direction := by
  cases p with
  | forwardScale =>
    obtain ⟨new, _, rfl⟩ := exists_of_map_eq_ok h
    cases direction with
    | forward => exact absurd rfl hp
    | backward => rfl
  | backwardScale =>
    obtain ⟨new, _, rfl⟩ := exists_of_map_eq_ok h
    cases direction with
    | forward => rfl
    | backward => exact absurd rfl hp
  | lengths | inputStrides | outputStrides | numberOfTransforms | forwardDistance
  | backwardDistance | placement | complexStorage | conjugateEvenStorage | workspace | ordering
  | transpose =>
    obtain ⟨new, _, rfl⟩ := exists_of_map_eq_ok h
    cases direction <;> rfl
  | realStorage | packedFormat | forwardDomain | precision | dimension | commitStatus => cases h

end Settings

/-! ## Runs -/

variable {ω π : Type} [Plan ω π]

namespace System

theorem scale_step (s : System ω π) (c : Call ω π) (direction : Direction) :
    match s.accepted direction.scaleParameter c with
    | none => (s.step c).descriptor.settings.scale direction =
        s.descriptor.settings.scale direction
    | some v => ∃ x, v.asReal = some x ∧ x.isFinite = true ∧
        (s.step c).descriptor.settings.scale direction =
          s.descriptor.settings.precision.round x := by
  cases c with
  | set p v =>
    simp only [accepted, step]
    cases hset : (s.descriptor.set p v s.world).1 with
    | error e =>
      dsimp only
      rw [Descriptor.descriptor_set_of_error hset]
    | ok u =>
      have hassign := Descriptor.assign_of_set hset
      by_cases hp : p = direction.scaleParameter
      · subst hp
        rw [if_pos rfl]
        exact Settings.scale_assign hassign
      · rw [if_neg hp]
        exact Settings.scale_assign_of_ne hp hassign
  | commit queue =>
    exact congrArg (fun t => Settings.scale t direction)
      (Descriptor.settings_commit s.registry s.descriptor queue s.world)
  | compute way form =>
    simp only [accepted, step, descriptor_compute]
  | register backend | unregister name | configure c => rfl

/-- A scale is the rounded value that it was last given, in a run that gave it one. -/
theorem scale_run (s : System ω π) (calls : List (Call ω π)) (direction : Direction) :
    match s.lastGiven direction.scaleParameter calls with
    | none => (s.run calls).descriptor.settings.scale direction =
        s.descriptor.settings.scale direction
    | some v => ∃ x, v.asReal = some x ∧ x.isFinite = true ∧
        (s.run calls).descriptor.settings.scale direction =
          s.descriptor.settings.precision.round x := by
  induction calls generalizing s with
  | nil => rfl
  | cons c rest ih =>
    have hrest := ih (s.step c)
    have hstep := s.scale_step c direction
    rw [lastGiven, run]
    -- A later value wins over the one that the first call gives.
    cases hlater : (s.step c).lastGiven direction.scaleParameter rest with
    | some v =>
      have hprecision := (s.shape_run [c]).1
      rw [run, run] at hprecision
      rw [hlater, hprecision] at hrest
      rw [Option.some_or]
      exact hrest
    | none =>
      rw [hlater] at hrest
      rw [Option.none_or, hrest]
      exact hstep

/-- In every state of every run, a scale is finite just when the precision has a finite number
nearest to the value that the scale was last given. The same goes for every scale that a plan is
asked to take over. -/
theorem scale_isFinite_iff (s : System ω π) {precision : Precision} {domain : Domain}
    {lengths : List Int} (made : Descriptor.new precision domain lengths = .ok s.descriptor)
    (calls : List (Call ω π)) (direction : Direction) :
    (((s.run calls).descriptor.settings.scale direction).isFinite = true ↔
      ∀ v ∈ s.lastGiven direction.scaleParameter calls, precision.Holds v) ∧
    ∀ v t, (s.run calls).descriptor.proposed direction.scaleParameter v = .ok t →
      ((t.scale direction).isFinite = true ↔ precision.Holds v) := by
  obtain ⟨-, -, hstart⟩ := Descriptor.new_eq_ok_iff.1 made
  have hinitial : s.descriptor.settings.precision = precision := by
    rw [hstart]
    rfl
  constructor
  · have hrun := s.scale_run calls direction
    cases hgiven : s.lastGiven direction.scaleParameter calls with
    | none =>
      rw [hgiven] at hrun
      have hdefault : (s.descriptor.settings.scale direction).isFinite = true := by
        rw [hstart]
        have hone : Double.one.isFinite = true := by decide +kernel
        cases direction with
        | forward => exact hone
        | backward => exact hone
      rw [hrun]
      exact iff_of_true hdefault (by simp)
    | some v =>
      rw [hgiven] at hrun
      obtain ⟨x, hv, hx, hscale⟩ := hrun
      have hround := precision.isFinite_round_iff_holds hv hx
      rw [hscale, hinitial]
      simpa only [Option.mem_some, forall_eq'] using hround
  · intro v t hproposed
    obtain ⟨x, hv, hx, hscale⟩ :=
      Settings.scale_assign (Descriptor.assign_of_proposed hproposed)
    rw [hscale, (s.shape_run calls).1, hinitial]
    exact precision.isFinite_round_iff_holds hv hx

theorem scale_isFinite_iff_seven :
    let s := onReference ⟨Settings.initial .single .complex [4], none⟩
    let calls := [.set .forwardScale (.int 7), .commit ⟨0, Device.host⟩]
    Descriptor.new .single .complex [4] = .ok s.descriptor ∧
      ((s.run calls).descriptor.settings.scale .forward).isFinite = true := by
  intro s calls
  have made : Descriptor.new .single .complex [4] = .ok s.descriptor := rfl
  refine ⟨made, (scale_isFinite_iff s made calls .forward).1.2 ?_⟩
  have hgiven : s.lastGiven .forwardScale calls = some (.int 7) := by decide +kernel
  have hmagnitude : (Binary.ofInt .double 7).magnitude < 2 ^ 128 - 2 ^ 103 := by decide +kernel
  intro v hv x hx
  rw [Direction.scaleParameter, hgiven] at hv
  cases hv
  cases hx
  exact hmagnitude

theorem scale_infinite_after_rounding :
    let s := onReference ⟨Settings.initial .single .complex [4], none⟩
    let x := Binary.ofBits .double 0x47F0000000000000
    Descriptor.new .single .complex [4] = .ok s.descriptor ∧ x.isFinite = true ∧
      (s.descriptor.set .forwardScale (.real x) s.world).1 = .ok () ∧
      ((s.run [.set .forwardScale (.real x)]).descriptor.settings.scale .forward).isFinite = false := by
  intro s x
  exact ⟨rfl, by decide +kernel, by decide +kernel, by decide +kernel⟩

end System

end Offload.Dft
