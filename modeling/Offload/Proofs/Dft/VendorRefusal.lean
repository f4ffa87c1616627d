import Offload.Proofs.Dft.Representation
import Offload.Proofs.Dft.VendorPlan

/-!
# How commits for AMD devices are refused

Without the library, every commit for an AMD device is refused. `Refused` lists the ways, each with
the conditions under which it is the one: the storage comes first, then the strides, read from the
fastest dimension to the slowest, then the number of dimensions, and only settings that pass all of
this find the library missing. The other tests on the way are never met by a descriptor.
-/

set_option autoImplicit false

namespace Offload.Dft.RocFft

open Number

variable {ω π : Type}

/-! ## Negative values -/

/-- The value that a list of strides is refused for: its last negative stride, and its offset only
if no stride is negative. -/
inductive Reported : List Int → Int → Prop
  | stride {offset value : Int} {before after : List Int} (hvalue : value < 0)
      (hafter : ∀ n ∈ after, 0 ≤ n) : Reported (offset :: (before ++ value :: after)) value
  | offset {offset : Int} {strides : List Int} (hoffset : offset < 0)
      (hstrides : ∀ n ∈ strides, 0 ≤ n) : Reported (offset :: strides) offset

theorem bind_eq_error {ε α β : Type} {x : Except ε α} {f : α → Except ε β} {e : ε} :
    x >>= f = .error e ↔ x = .error e ∨ ∃ a, x = .ok a ∧ f a = .error e := by
  cases x with
  | error other => simp [Bind.bind, Except.bind]
  | ok a => simp [Bind.bind, Except.bind]

theorem toCount_eq_error {name : String} {value : Int} {fault : Fault} :
    toCount name value = .error fault ↔ value < 0 ∧ fault = .negative name value := by
  unfold toCount
  by_cases h : 0 ≤ value
  · simp [h, Int.not_lt.mpr h]
  · simp [h, Int.not_le.mp h, eq_comm]

theorem toCounts_eq_error {name : String} {values : List Int} {fault : Fault} :
    toCounts name values = .error fault ↔
      ∃ before value after, values = before ++ value :: after ∧
        (∀ m ∈ before, 0 ≤ m) ∧ value < 0 ∧ fault = .negative name value := by
  induction values with
  | nil => simp [toCounts]
  | cons value rest ih =>
    rw [toCounts_cons, bind_eq_error, toCount_eq_error]
    constructor
    · rintro (⟨hvalue, rfl⟩ | ⟨count, hcount, hrest⟩)
      · exact ⟨[], value, rest, rfl, List.forall_mem_nil _, hvalue, rfl⟩
      · have hnonneg : 0 ≤ value := (toCount_eq_ok.mp hcount).1
        simp only [bind_eq_error, Pure.pure, Except.pure, reduceCtorEq, and_false, exists_false,
          or_false] at hrest
        obtain ⟨before, found, after, rfl, hbefore, hfound⟩ := ih.mp hrest
        exact ⟨value :: before, found, after, rfl, List.forall_mem_cons.mpr ⟨hnonneg, hbefore⟩,
          hfound⟩
    · rintro ⟨before, found, after, hsplit, hbefore, hfound, rfl⟩
      cases before with
      | nil =>
        obtain ⟨rfl, rfl⟩ := List.cons.inj hsplit
        exact .inl ⟨hfound, rfl⟩
      | cons first before =>
        obtain ⟨rfl, rfl⟩ := List.cons.inj hsplit
        rw [List.forall_mem_cons] at hbefore
        have hrest := ih.mpr ⟨before, found, after, rfl, hbefore.2, hfound, rfl⟩
        refine .inr ⟨value.toNat, toCount_eq_ok.mpr ⟨hbefore.1, rfl⟩, ?_⟩
        rw [hrest]
        rfl

/-- The strides are read from the last one on, and the offset after all of them. -/
theorem splitStrides_eq_error {name : String} {strides : List Int} {fault : Fault}
    (hne : strides ≠ []) :
    splitStrides name strides = .error fault ↔
      ∃ value, fault = .negative name value ∧ Reported strides value := by
  obtain ⟨offset, rest, rfl⟩ := List.exists_cons_of_ne_nil hne
  rw [splitStrides_cons, bind_eq_error, toCounts_eq_error]
  constructor
  · rintro (⟨before, value, after, hsplit, hbefore, hvalue, rfl⟩ | ⟨counts, hcounts, hoffset⟩)
    · have hrest : rest = after.reverse ++ value :: before.reverse := by
        rw [← List.reverse_reverse rest, hsplit, List.reverse_append, List.reverse_cons,
          List.append_assoc, List.singleton_append]
      rw [hrest]
      exact ⟨value, rfl, .stride hvalue (by simpa using hbefore)⟩
    · have hrest : ∀ m ∈ rest, 0 ≤ m := by simpa using (toCounts_eq_ok.mp hcounts).1
      simp only [bind_eq_error, Pure.pure, Except.pure, reduceCtorEq, and_false, exists_false,
        or_false, toCount_eq_error] at hoffset
      obtain ⟨hnegative, rfl⟩ := hoffset
      exact ⟨offset, rfl, .offset hnegative hrest⟩
  · rintro ⟨value, rfl, hreported⟩
    cases hreported with
    | @stride _ _ before after hvalue hafter =>
      refine .inl ⟨after.reverse, value, before.reverse, ?_, by simpa using hafter, hvalue, rfl⟩
      rw [List.reverse_append, List.reverse_cons, List.append_assoc, List.singleton_append]
    | offset hoffset hrest =>
      refine .inr ⟨_, toCounts_eq_ok.mpr ⟨by simpa using hrest, rfl⟩, ?_⟩
      rw [toCount_eq_error.mpr ⟨hoffset, rfl⟩]
      rfl

/-! ## Plans that cannot be stated -/

section WellFormed

variable {s : Settings} (hs : s.WellFormed)
include hs

theorem planSpecs_eq_error_iff {fault : Fault} :
    planSpecs s = .error fault ↔
      (∃ value, fault = .negative "INPUT_STRIDES" value ∧ Reported s.inputStrides value) ∨
        (∀ m ∈ s.inputStrides, 0 ≤ m) ∧
          ∃ value, fault = .negative "OUTPUT_STRIDES" value ∧ Reported s.outputStrides value := by
  have hlengths : toCounts "LENGTHS" s.lengths.reverse = .ok (s.lengths.reverse.map Int.toNat) := by
    refine toCounts_eq_ok.mpr ⟨?_, rfl⟩
    intro length hlength
    exact Int.le_of_lt (hs.lengths_pos length (List.mem_reverse.mp hlength))
  have hcount : ∀ (name : String) {value : Int}, 0 < value →
      toCount name value = .ok value.toNat :=
    fun name value h => toCount_eq_ok.mpr ⟨Int.le_of_lt h, rfl⟩
  have hforward := hs.distance_pos .forward
  have hbackward := hs.distance_pos .backward
  have hinput := strides_ne_nil hs .forward
  have houtput := strides_ne_nil hs .backward
  simp only [Settings.distance] at hforward hbackward
  simp only [Settings.strides] at hinput houtput
  -- Each value that is read is there, but for the strides, which are there or are reported.
  simp only [planSpecs, bind_eq_error, hlengths, hcount _ hs.transforms_pos, hcount _ hforward,
    hcount _ hbackward, splitStrides_eq_error hinput, splitStrides_eq_error houtput,
    splitStrides_eq_ok hinput, splitStrides_eq_ok houtput, reduceCtorEq, Except.ok.injEq, false_or,
    and_false, or_false, and_assoc, exists_and_left, exists_eq_left, exists_eq_left', exists_false,
    Pure.pure, Except.pure]

theorem validate_stated (direction : Direction) :
    (stated s direction).validate =
      if 3 < s.dimension then
        .error (.invalidArgument s!"rocFFT supports 1 to 3 dimensions, got {s.dimension}")
      else .ok () := by
  have hlengths : (stated s direction).lengths.length = s.dimension := by
    rw [stated, planSpec, List.length_map, List.length_reverse]
    rfl
  have hstrides : ∀ side, (statedSide s side).strides.length = s.dimension := by
    intro side
    rw [statedSide, List.length_map, List.length_reverse, List.length_tail, hs.length_strides,
      Nat.add_sub_cancel]
  have hpositive : s.dimension ≠ 0 := by
    intro hzero
    exact hs.lengths_ne_nil (List.length_eq_zero_iff.mp hzero)
  have hin : (stated s direction).inStrides.length = s.dimension := hstrides _
  have hout : (stated s direction).outStrides.length = s.dimension := hstrides _
  simp only [Rocm.PlanSpec.validate, hlengths, hin, hout, hpositive, false_or, ne_eq,
    not_true_eq_false, or_self, if_false]

end WellFormed

/-! ## Refusals -/

/-- How a commit of some settings for a device is refused. -/
inductive Refused (s : Settings) (device : Device) : Error → Prop
  | splitReal (hsplit : s.SplitReal) : Refused s device
      (.unimplemented "dft" "commit" "for COMPLEX_STORAGE = REAL_REAL on real-domain descriptors")
  | inputStrides {value : Int} (hsplit : ¬s.SplitReal) (hvalue : Reported s.inputStrides value) :
      Refused s device
        (.invalidArgument "dft" "commit" s!"INPUT_STRIDES must be non-negative, got {value}")
  | outputStrides {value : Int} (hsplit : ¬s.SplitReal) (hinput : ∀ n ∈ s.inputStrides, 0 ≤ n)
      (hvalue : Reported s.outputStrides value) : Refused s device
        (.invalidArgument "dft" "commit" s!"OUTPUT_STRIDES must be non-negative, got {value}")
  | dimensions (hsplit : ¬s.SplitReal) (hinput : ∀ n ∈ s.inputStrides, 0 ≤ n)
      (houtput : ∀ n ∈ s.outputStrides, 0 ≤ n) (hdimension : 3 < s.dimension) :
      Refused s device
        (.invalidArgument "dft" "rocm" s!"rocFFT supports 1 to 3 dimensions, got {s.dimension}")
  | notLinked (hsplit : ¬s.SplitReal) (hinput : ∀ n ∈ s.inputStrides, 0 ≤ n)
      (houtput : ∀ n ∈ s.outputStrides, 0 ≤ n) (hdimension : s.dimension ≤ 3) :
      Refused s device (.backendUnavailable "dft" device.text)

def commitError (device : Device) (s : Settings) : Error :=
  if s.domain = .real ∧ s.storage = .split then Descriptor.splitReal else refusal device s

theorem commitError_of_split {device : Device} {s : Settings} (h : s.SplitReal) :
    commitError device s = Descriptor.splitReal := if_pos h

theorem commitError_of_not_split {device : Device} {s : Settings} (h : ¬s.SplitReal) :
    commitError device s = refusal device s := if_neg h

theorem commit_of_selected {registry : Registry (Backend ω π)} {queue : Queue}
    (selected : registry.backendFor queue.device = .ok RocFft.backend) (d : Descriptor π) (w : ω) :
    d.commit registry queue w = (.error (commitError queue.device d.settings), d, w) := by
  rw [Descriptor.commit, commitError]
  by_cases hsplit : d.settings.domain = .real ∧ d.settings.storage = .split
  · rw [if_pos hsplit, if_pos hsplit]
  · simp only [if_neg hsplit, selected, backend, Action.refuse]

section WellFormed

variable {s : Settings} (hs : s.WellFormed) {device : Device}

theorem refusal_of_error {fault : Fault} (h : planSpecs s = .error fault) :
    refusal device s = fault.toError := by
  simp only [refusal, h]

include hs

theorem refusal_of_nonneg (hinput : ∀ n ∈ s.inputStrides, 0 ≤ n)
    (houtput : ∀ n ∈ s.outputStrides, 0 ≤ n) :
    refusal device s =
      if 3 < s.dimension then
        .invalidArgument "dft" "rocm" s!"rocFFT supports 1 to 3 dimensions, got {s.dimension}"
      else .backendUnavailable "dft" device.text := by
  have hspecs := (planSpecs_eq_ok_iff hs).mpr ⟨⟨hinput, houtput⟩, rfl⟩
  simp only [refusal, hspecs, Rocm.PlanSpec.refusal, validate_stated hs]
  by_cases hdimension : 3 < s.dimension
  · simp only [if_pos hdimension, Rocm.Error.toError]
  · simp only [if_neg hdimension, Rocm.Error.toError]

theorem refused_iff {e : Error} : Refused s device e ↔ e = commitError device s := by
  constructor
  · intro h
    cases h with
    | splitReal hsplit => rw [commitError_of_split hsplit, Descriptor.splitReal]
    | @inputStrides value hsplit hvalue =>
      have hspecs : planSpecs s = .error (.negative "INPUT_STRIDES" value) :=
        (planSpecs_eq_error_iff hs).mpr (.inl ⟨value, rfl, hvalue⟩)
      rw [commitError_of_not_split hsplit, refusal_of_error hspecs]
      rfl
    | @outputStrides value hsplit hinput hvalue =>
      have hspecs : planSpecs s = .error (.negative "OUTPUT_STRIDES" value) :=
        (planSpecs_eq_error_iff hs).mpr (.inr ⟨hinput, value, rfl, hvalue⟩)
      rw [commitError_of_not_split hsplit, refusal_of_error hspecs]
      rfl
    | dimensions hsplit hinput houtput hdimension =>
      rw [commitError_of_not_split hsplit, refusal_of_nonneg hs hinput houtput,
        if_pos hdimension]
    | notLinked hsplit hinput houtput hdimension =>
      rw [commitError_of_not_split hsplit, refusal_of_nonneg hs hinput houtput,
        if_neg (Nat.not_lt.mpr hdimension)]
  · rintro rfl
    by_cases hsplit : s.SplitReal
    · rw [commitError_of_split hsplit]
      exact .splitReal hsplit
    · rw [commitError_of_not_split hsplit]
      cases hspecs : planSpecs s with
      | error fault =>
        rw [refusal_of_error hspecs]
        obtain ⟨value, rfl, hvalue⟩ | ⟨hinput, value, rfl, hvalue⟩ :=
          (planSpecs_eq_error_iff hs).mp hspecs
        · exact .inputStrides hsplit hvalue
        · exact .outputStrides hsplit hinput hvalue
      | ok specs =>
        obtain ⟨⟨hinput, houtput⟩, -⟩ := (planSpecs_eq_ok_iff hs).mp hspecs
        rw [refusal_of_nonneg hs hinput houtput]
        by_cases hdimension : 3 < s.dimension
        · rw [if_pos hdimension]
          exact .dimensions hsplit hinput houtput hdimension
        · rw [if_neg hdimension]
          exact .notLinked hsplit hinput houtput (Nat.not_lt.mp hdimension)

end WellFormed

/-- The tests that are never met. Lengths, counts and distances are never negative, no list of
strides is without an offset, and plans that can be stated have a stride for each dimension. -/
structure Unmet (s : Settings) : Prop where
  negative : ∀ fault, planSpecs s = .error fault →
    ∃ value, fault = .negative "INPUT_STRIDES" value ∨ fault = .negative "OUTPUT_STRIDES" value
  offset : ∀ side, ∃ offset strides, s.strides side = offset :: strides
  validate : ∀ specs, planSpecs s = .ok specs → ∀ direction,
    (planOf specs direction).validate =
      if 3 < s.dimension then
        .error (.invalidArgument s!"rocFFT supports 1 to 3 dimensions, got {s.dimension}")
      else .ok ()

theorem unmet_of_wellFormed {s : Settings} (hs : s.WellFormed) : Unmet s where
  negative fault h := by
    obtain ⟨value, hfault, -⟩ | ⟨-, value, hfault, -⟩ := (planSpecs_eq_error_iff hs).mp h
    · exact ⟨value, .inl hfault⟩
    · exact ⟨value, .inr hfault⟩
  offset side := List.exists_cons_of_ne_nil (strides_ne_nil hs side)
  validate specs h direction := by
    obtain ⟨-, rfl⟩ := (planSpecs_eq_ok_iff hs).mp h
    cases direction with
    | forward => exact validate_stated hs .forward
    | backward => exact validate_stated hs .backward

/-- After every run, a commit to a queue whose device the registry serves with this backend is
refused and changes nothing. It is refused in exactly one way, the one whose conditions the settings
meet, and the other tests on the way to a plan are never met. -/
theorem commit_refused [Plan ω π] (s : System ω π) (fresh : s.Fresh) (calls : List (Call ω π))
    (registry : Registry (Backend ω π)) (queue : Queue) (w : ω)
    (selected : registry.backendFor queue.device = .ok RocFft.backend) :
    let d := (s.run calls).descriptor
    (∃ e, d.commit registry queue w = (.error e, d, w) ∧
      ∀ other, Refused d.settings queue.device other ↔ other = e) ∧
    Unmet d.settings := by
  intro d
  have hs : d.settings.WellFormed := System.wellFormed_run fresh calls
  exact ⟨⟨_, commit_of_selected selected d w, fun other => refused_iff hs⟩,
    unmet_of_wellFormed hs⟩

theorem commit_refused_matrix :
    let s := System.onReference ⟨Settings.initial .double .complex [4, 6], none⟩
    let calls := [.register RocFft.backend, .set .inputStrides (.ints [-5, -6, 1])]
    let t := s.run calls
    let queue : Queue := ⟨0, ⟨.amd, 0, "gfx90a"⟩⟩
    s.Fresh ∧ t.registry.backendFor queue.device = .ok RocFft.backend ∧
      t.descriptor.commit t.registry queue t.world =
        (.error (.invalidArgument "dft" "commit" "INPUT_STRIDES must be non-negative, got -6"),
          t.descriptor, t.world) := by
  intro s calls t queue
  have fresh : s.Fresh := ⟨.double, .complex, [4, 6], rfl⟩
  have selected : t.registry.backendFor queue.device = .ok RocFft.backend := rfl
  obtain ⟨⟨e, hcommit, hrefused⟩, -⟩ :=
    commit_refused s fresh calls t.registry queue t.world selected
  have hvalue : Reported t.descriptor.settings.inputStrides (-6) :=
    show Reported (-5 :: ([] ++ -6 :: [1])) (-6) from .stride (by decide) (by decide)
  have hsplit : ¬t.descriptor.settings.SplitReal := fun h => by cases h.1
  have he := (hrefused _).mp (.inputStrides hsplit hvalue)
  rw [hcommit, ← he]
  exact ⟨fresh, selected, rfl⟩

end Offload.Dft.RocFft
