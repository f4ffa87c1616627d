import Offload.Proofs.Dft.Address
import Offload.Proofs.Dft.Gate
import Offload.Proofs.Dft.Readback

/-!
# Extents are exact

The extent of a domain is computed with checks on most of its steps. These checks refuse nothing
that fits in memory: the least address only falls and the greatest only grows from one dimension to
the next, so if the last ones are those of some memory, all in between are. `extent_exact` says that
the extent is the greatest address plus one just when no address is negative and that number is a
count of elements, and that the steps without a check stay in range.
-/

set_option autoImplicit false

namespace Offload.Dft

open Number

/-! ## The reach of a layout that fits -/

theorem checked128_of_inInt128 {n : Int} (h : InInt128 n) : checked128 n = some n := if_pos h

theorem total_nonpos {reach : Int × Int → Int} (h : ∀ d, reach d ≤ 0) (dims : List (Int × Int)) :
    total reach dims ≤ 0 := by
  induction dims with
  | nil => exact Int.le_refl 0
  | cons d rest ih =>
    have hd := h d
    rw [total]
    omega

theorem total_nonneg {reach : Int × Int → Int} (h : ∀ d, 0 ≤ reach d) (dims : List (Int × Int)) :
    0 ≤ total reach dims := by
  induction dims with
  | nil => exact Int.le_refl 0
  | cons d rest ih =>
    have hd := h d
    rw [total]
    omega

theorem lowest_nonpos (dims : List (Int × Int)) : lowest dims ≤ 0 :=
  total_nonpos (fun _ => Int.min_le_left ..) dims

theorem highest_nonneg (dims : List (Int × Int)) : 0 ≤ highest dims :=
  total_nonneg (fun _ => Int.le_max_left ..) dims

theorem extendReach_of_fits {low high : Int} (n stride : Int) (hle : low ≤ high)
    (hlow : 0 ≤ low + min 0 ((n - 1) * stride))
    (hhigh : InInt128 (high + max 0 ((n - 1) * stride))) :
    extendReach (low, high) n stride =
      some (low + min 0 ((n - 1) * stride), high + max 0 ((n - 1) * stride)) := by
  obtain ⟨-, hlast⟩ := hhigh
  generalize hreach : (n - 1) * stride = reach at *
  have hrange : InInt128 reach := by
    constructor <;> omega
  have hlowRange : InInt128 (low + min 0 reach) := by
    constructor <;> omega
  have hhighRange : InInt128 (high + max 0 reach) := by
    constructor <;> omega
  rw [extendReach, hreach, checked128_of_inInt128 hrange]
  dsimp only
  by_cases hneg : reach < 0
  · rw [Int.min_eq_right (by omega)] at hlowRange ⊢
    rw [Int.max_eq_left (by omega), if_pos hneg, checked128_of_inInt128 hlowRange, Int.add_zero]
    rfl
  · rw [Int.max_eq_right (by omega)] at hhighRange ⊢
    rw [Int.min_eq_left (by omega), if_neg hneg, checked128_of_inInt128 hhighRange, Int.add_zero]
    rfl

theorem extendAll_of_fits {dims : List (Int × Int)} {low high : Int} (hle : low ≤ high)
    (hlow : 0 ≤ low + lowest dims) (hhigh : InInt128 (high + highest dims)) :
    extendAll (low, high) dims = some (low + lowest dims, high + highest dims) := by
  induction dims generalizing low high with
  | nil => simp [extendAll, lowest, highest, total]
  | cons d rest ih =>
    obtain ⟨n, stride⟩ := d
    rw [lowest_cons] at hlow ⊢
    rw [highest_cons] at hhigh ⊢
    dsimp only at hlow hhigh ⊢
    -- What the other dimensions add moves the bounds apart, so the bounds so far lie between.
    have hrestLow := lowest_nonpos rest
    have hrestHigh := highest_nonneg rest
    have hend := hhigh.2
    have hfirst := extendReach_of_fits n stride hle (by omega) (by constructor <;> omega)
    rw [← Int.add_assoc] at hlow hhigh
    have hrest := ih (by omega) hlow hhigh
    rw [extendAll, hfirst]
    dsimp only
    rw [hrest, Int.add_assoc, Int.add_assoc]

namespace Settings

/-- The least address of a domain, if no dimension is empty. -/
def leastAddress (s : Settings) (side : Direction) : Int :=
  (s.strides side).headD 0 + lowest (s.dims side)

def greatestAddress (s : Settings) (side : Direction) : Int :=
  (s.strides side).headD 0 + highest (s.dims side) + (s.transforms - 1) * s.distance side

variable {s : Settings} {side : Direction} {e : Nat}

theorem extent_of_fits (hbatch : 0 ≤ (s.transforms - 1) * s.distance side)
    (hlow : 0 ≤ s.leastAddress side) (hword : InWord64 (s.greatestAddress side + 1)) :
    s.extent side = .ok (s.greatestAddress side + 1).toNat := by
  unfold leastAddress dims at hlow
  unfold greatestAddress dims at hword ⊢
  have hlowest := lowest_nonpos ((s.shape side).zip (s.strides side).tail)
  have hhighest := highest_nonneg ((s.shape side).zip (s.strides side).tail)
  obtain ⟨-, hend⟩ := hword
  have hreach : s.reach side = some _ :=
    extendAll_of_fits (Int.le_refl _) hlow (by constructor <;> omega)
  have hlast : InInt128 ((s.strides side).headD 0 +
      highest ((s.shape side).zip (s.strides side).tail) +
        (s.transforms - 1) * s.distance side) := by
    constructor <;> omega
  rw [extent, hreach]
  dsimp only
  rw [checked128_of_inInt128 hlast]
  dsimp only
  rw [if_neg (by omega), if_pos (by constructor <;> omega)]

theorem extent_eq_ok_iff (hbatch : 0 ≤ (s.transforms - 1) * s.distance side) :
    s.extent side = .ok e ↔
      0 ≤ s.leastAddress side ∧ InWord64 (s.greatestAddress side + 1) ∧
        (e : Int) = s.greatestAddress side + 1 := by
  constructor
  · intro h
    obtain ⟨hlow, hlast⟩ := extent_eq_ok h
    have hword := extent_le h
    have hend : (e : Int) = s.greatestAddress side + 1 := by
      rw [greatestAddress]
      omega
    refine ⟨hlow, ?_, hend⟩
    rw [← hend]
    simp only [maxWord64] at hword
    constructor <;> omega
  · rintro ⟨hlow, hword, hend⟩
    rw [extent_of_fits hbatch hlow hword, ← hend]
    rfl

/-- A layout that starts within memory can only be too large. -/
theorem eq_tooLarge_of_extent {fault : ExtentFault} (h : s.extent side = .error fault)
    (hlow : 0 ≤ s.leastAddress side) : fault = .tooLarge side.stridesParameter := by
  unfold extent at h
  cases hr : s.reach side with
  | none =>
    simp only [hr, Except.error.injEq] at h
    exact h.symm
  | some bounds =>
    have hbounds := extendAll_eq_some hr
    obtain ⟨low, high⟩ := bounds
    simp only [Prod.mk.injEq] at hbounds
    simp only [hr] at h
    split at h
    · exact (Except.error.inj h).symm
    · rw [leastAddress, dims] at hlow
      rw [if_neg (by omega)] at h
      split at h
      · cases h
      · exact (Except.error.inj h).symm

namespace WellFormed

theorem batch_nonneg (hs : s.WellFormed) (side : Direction) :
    0 ≤ (s.transforms - 1) * s.distance side := by
  have htransforms := hs.transforms_pos
  exact Int.mul_nonneg (by omega) (Int.le_of_lt (hs.distance_pos side))

theorem leastAddress_nonneg_iff (hs : s.WellFormed) (side : Direction) :
    0 ≤ s.leastAddress side ↔ ∀ a ∈ s.touched side, 0 ≤ a := by
  obtain ⟨hmem, hleast⟩ := hs.isLeast_touched side
  constructor
  · intro hstart a ha
    exact Int.le_trans hstart (hleast ha)
  · intro hall
    exact hall _ hmem

end WellFormed

end Settings

/-! ## Integers of 64 bits -/

def Value.InInt64 : Value → Prop
  | .int n => Number.InInt64 n
  | .ints ns => ∀ n ∈ ns, Number.InInt64 n
  | _ => True

def Call.InInt64 {ω π : Type} : Call ω π → Prop
  | .set _ v => v.InInt64
  | _ => True

namespace Settings

structure CountsInInt64 (s : Settings) : Prop where
  lengths : ∀ n ∈ s.lengths, Number.InInt64 n
  transforms : Number.InInt64 s.transforms
  distance : ∀ side, Number.InInt64 (s.distance side)

variable {s t : Settings}

theorem inInt64_of_positive {p : Parameter} {v : Value} {n : Int} (h : positive p v = .ok n)
    (hv : v.InInt64) : Number.InInt64 n := by
  rw [eq_of_positive h] at hv
  exact hv

theorem inInt64_of_newLengths {v : Value} {lengths : List Int} (h : s.newLengths v = .ok lengths)
    (hv : v.InInt64) : ∀ n ∈ lengths, Number.InInt64 n := by
  have hcoerce : Parameter.lengths.coerce s.precision v = .ints lengths := coerce_of_newLengths h
  cases v with
  | int n =>
    cases hcoerce
    exact List.forall_mem_singleton.2 hv
  | ints given =>
    cases hcoerce
    exact hv
  | _ => cases hcoerce

theorem countsInInt64_assign {p : Parameter} {v : Value} (h : s.assign p v = .ok t)
    (hv : v.InInt64) (hs : s.CountsInInt64) : t.CountsInInt64 := by
  obtain ⟨hlengths, htransforms, hdistance⟩ := hs
  cases p with
  | lengths =>
    obtain ⟨lengths, hnew, rfl⟩ := exists_of_map_eq_ok h
    exact ⟨inInt64_of_newLengths hnew hv, htransforms, hdistance⟩
  | numberOfTransforms =>
    obtain ⟨transforms, hnew, rfl⟩ := exists_of_map_eq_ok h
    exact ⟨hlengths, inInt64_of_positive hnew hv, hdistance⟩
  | forwardDistance =>
    obtain ⟨distance, hnew, rfl⟩ := exists_of_map_eq_ok h
    refine ⟨hlengths, htransforms, fun side => ?_⟩
    cases side with
    | forward => exact inInt64_of_positive hnew hv
    | backward => exact hdistance .backward
  | backwardDistance =>
    obtain ⟨distance, hnew, rfl⟩ := exists_of_map_eq_ok h
    refine ⟨hlengths, htransforms, fun side => ?_⟩
    cases side with
    | forward => exact hdistance .forward
    | backward => exact inInt64_of_positive hnew hv
  -- What is left counts nothing, or cannot be set.
  | inputStrides | outputStrides | forwardScale | backwardScale | placement | complexStorage
  | conjugateEvenStorage | workspace | ordering | transpose =>
    obtain ⟨new, _, rfl⟩ := exists_of_map_eq_ok h
    exact ⟨hlengths, htransforms, hdistance⟩
  | realStorage | packedFormat | forwardDomain | precision | dimension | commitStatus => cases h

theorem countsInInt64_initial (precision : Precision) (domain : Domain) {lengths : List Int}
    (h : ∀ n ∈ lengths, Number.InInt64 n) : (initial precision domain lengths).CountsInInt64 := by
  have hone : Number.InInt64 1 := by decide
  refine ⟨h, hone, fun side => ?_⟩
  cases side <;> exact hone

end Settings

namespace System

variable {ω π : Type} [Plan ω π]

theorem countsInInt64_step {s : System ω π} (h : s.descriptor.settings.CountsInInt64)
    {call : Call ω π} (hcall : call.InInt64) : (s.step call).descriptor.settings.CountsInInt64 := by
  cases call with
  | set p v =>
    rcases s.descriptor.settings_set p v s.world with hsame | hnew
    · exact hsame ▸ h
    · exact Settings.countsInInt64_assign hnew hcall h
  | commit queue => exact (Descriptor.settings_commit s.registry s.descriptor queue s.world) ▸ h
  | compute direction form =>
    rw [step, descriptor_compute]
    exact h
  | register backend => exact h
  | unregister name => exact h
  | configure c => exact h

theorem countsInInt64_run {s : System ω π} (h : s.descriptor.settings.CountsInInt64)
    {calls : List (Call ω π)} (hcalls : ∀ call ∈ calls, call.InInt64) :
    (s.run calls).descriptor.settings.CountsInInt64 := by
  induction calls generalizing s with
  | nil => exact h
  | cons call rest ih =>
    rw [List.forall_mem_cons] at hcalls
    exact ih (countsInInt64_step h hcalls.1) hcalls.2

end System

/-! ## The steps without a check -/

namespace Settings

variable {s : Settings}

theorem inInt64_shape (hs : s.WellFormed) (hcounts : s.CountsInInt64) (side : Direction) :
    ∀ n ∈ s.shape side, Number.InInt64 n := by
  by_cases h : side = .backward ∧ s.domain = .real
  · obtain ⟨rfl, hdomain⟩ := h
    obtain ⟨front, last, hlengths⟩ := hs.exists_last
    have hpos := hs.lengths_pos
    have hrange := hcounts.lengths
    rw [hlengths, List.forall_mem_append, List.forall_mem_singleton] at hpos hrange
    rw [shape_backward_real hdomain hlengths, List.forall_mem_append, List.forall_mem_singleton,
      halfLength]
    refine ⟨hrange.1, ?_, ?_⟩
    · have hlast := hpos.2
      omega
    · have hlast := hrange.2.2
      omega
  · rw [shape_of_ne h]
    exact hcounts.lengths

theorem inInt64_pred {n : Int} (hpos : 0 < n) (h : Number.InInt64 n) : Number.InInt64 (n - 1) := by
  obtain ⟨-, hlast⟩ := h
  constructor <;> omega

theorem inInt128_batch (hs : s.WellFormed) (hcounts : s.CountsInInt64) (side : Direction) :
    InInt128 ((s.transforms - 1) * s.distance side) := by
  have htransforms := hcounts.transforms.2
  have hdistance := (hcounts.distance side).2
  have hnonneg := hs.batch_nonneg side
  have hpos := hs.transforms_pos
  have hproduct : (s.transforms - 1) * s.distance side ≤
      9223372036854775807 * 9223372036854775807 :=
    Int.mul_le_mul (by omega) (by omega) (Int.le_of_lt (hs.distance_pos side)) (by decide)
  constructor <;> omega

end Settings

/-- In every state of every run, a domain has a greatest address. Its extent is that address plus
one just when no address is negative and that many elements can be counted; otherwise it is refused
as an invalid argument. Of the integers that are computed on the way without a check, none leaves
its type: the lengths of the domain, what is one less than a length or the number of transforms, and
the distance of the last transform. -/
theorem System.extent_exact {ω π : Type} [Plan ω π] (s : System ω π) {precision : Precision}
    {domain : Domain} {lengths : List Int}
    (made : Descriptor.new precision domain lengths = .ok s.descriptor)
    (words : ∀ n ∈ lengths, InInt64 n) (calls : List (Call ω π))
    (hcalls : ∀ call ∈ calls, call.InInt64) (side : Direction) :
    let t := (s.run calls).descriptor.settings
    (∃ greatest, IsGreatest (t.touched side) greatest ∧
      (∀ e : Nat, t.extent side = .ok e ↔
        (∀ a ∈ t.touched side, 0 ≤ a) ∧ InWord64 (greatest + 1) ∧ (e : Int) = greatest + 1) ∧
      (¬((∀ a ∈ t.touched side, 0 ≤ a) ∧ InWord64 (greatest + 1)) →
        ∃ fault, t.extent side = .error fault ∧ ∀ direction,
          (ComputeFault.extent fault).toError direction =
            .invalidArgument "dft" direction.task fault.text)) ∧
    (∀ n ∈ t.shape side, InInt64 n ∧ InInt64 (n - 1)) ∧
    InInt64 (t.transforms - 1) ∧ InInt128 ((t.transforms - 1) * t.distance side) := by
  intro t
  have hs : t.WellFormed := wellFormed_run ⟨precision, domain, lengths, made⟩ calls
  have hcounts : t.CountsInInt64 := by
    obtain ⟨-, -, hstart⟩ := Descriptor.new_eq_ok_iff.1 made
    refine countsInInt64_run ?_ hcalls
    rw [hstart]
    exact Settings.countsInInt64_initial precision domain words
  have hiff : ∀ e : Nat, t.extent side = .ok e ↔ (∀ a ∈ t.touched side, 0 ≤ a) ∧
      InWord64 (t.greatestAddress side + 1) ∧ (e : Int) = t.greatestAddress side + 1 := by
    intro e
    rw [Settings.extent_eq_ok_iff (hs.batch_nonneg side), hs.leastAddress_nonneg_iff side]
  refine ⟨⟨t.greatestAddress side, hs.isGreatest_touched side, hiff, ?_⟩, ?_, ?_, ?_⟩
  · intro hnot
    cases hextent : t.extent side with
    | error fault => exact ⟨fault, rfl, fun direction => rfl⟩
    | ok e =>
      obtain ⟨hstart, hword, -⟩ := (hiff e).1 hextent
      exact absurd ⟨hstart, hword⟩ hnot
  · intro n hn
    have hrange := Settings.inInt64_shape hs hcounts side n hn
    exact ⟨hrange, Settings.inInt64_pred (hs.shape_pos side n hn) hrange⟩
  · exact Settings.inInt64_pred hs.transforms_pos hcounts.transforms
  · exact Settings.inInt128_batch hs hcounts side

theorem System.extent_exact_padded :
    let s := onReference ⟨Settings.initial .double .real [4, 16], none⟩
    let calls := [.set .numberOfTransforms (.int 2), .set .forwardDistance (.int 64),
      .set .backwardDistance (.int 40), .set .outputStrides (.ints [0, 9, 1])]
    let t := (s.run calls).descriptor.settings
    Descriptor.new .double .real [4, 16] = .ok s.descriptor ∧ t.extent .backward = .ok 76 ∧
      IsGreatest (t.touched .backward) 75 := by
  intro s calls t
  have made : Descriptor.new .double .real [4, 16] = .ok s.descriptor := rfl
  obtain ⟨⟨greatest, hgreatest, hiff, -⟩, -⟩ := s.extent_exact made (by decide) calls
    (by simp [calls, Call.InInt64, Value.InInt64, InInt64]) .backward
  have hextent : t.extent .backward = .ok 76 := by decide +kernel
  obtain ⟨-, -, hend⟩ := (hiff 76).1 hextent
  have hlast : greatest = 75 := by omega
  exact ⟨made, hextent, hlast ▸ hgreatest⟩

end Offload.Dft
