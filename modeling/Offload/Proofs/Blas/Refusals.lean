import Mathlib.Data.List.SplitLengths
import Offload.Blas.RocBlas
import Offload.Proofs.Blas.Forwarding

/-!
# How the backend for AMD devices refuses

Without a library every call is refused, and there are three ways to be. A routine that the library
does not provide in a layout is not implemented. A provided one makes demands on its integers and on
the lengths of its operands, which `demands` lists in the order in which they are checked, and the
first that is not met is reported. When all are met, the routines are missing.
`refused_in_classes` says that nothing else comes of a call on a queue that this backend serves.
-/

set_option autoImplicit false

namespace Offload.Blas.RocBlas

open Number

variable {ω α : Type} {k : ElementKind}

/-! ## Demands -/

/-- One thing that the library asks of a call. -/
inductive Demand
  | integer (argument : String) (value : Int)
  | extent (operand : String) (length : Nat) (required : Int)

namespace Demand

def Met : Demand → Prop
  | integer _ value => InInt32 value
  | extent _ length required => required ≤ wrapInt64 length

instance (d : Demand) : Decidable d.Met :=
  match d with
  | integer _ value => inferInstanceAs (Decidable (InInt32 value))
  | extent _ length required => inferInstanceAs (Decidable (required ≤ wrapInt64 length))

def fault : Demand → Fault
  | integer argument value => .integerRange argument value
  | extent operand length required => .shortOperand operand length required

def error (routine : Routine) : Demand → Error
  | integer argument value => .overflow routine.name argument value
  | extent operand length required =>
    .invalidArgument "blas" routine.name
      s!"`{operand}` holds {length} elements but the call needs {required}"

theorem toError_fault (routine : Routine) (d : Demand) :
    d.fault.toError routine.name = d.error routine := by
  cases d <;> rfl

def isInteger : Demand → Bool
  | integer .. => true
  | extent .. => false

def ofInteger (integer : String × Int) : Demand := .integer integer.1 integer.2

def ofExtent (extent : String × Nat × Int) : Demand := .extent extent.1 extent.2.1 extent.2.2

theorem met_extent_iff {operand : String} {length : Nat} {required : Int}
    (h : (length : Int) ≤ maxInt64) : (extent operand length required).Met ↔ required ≤ length := by
  have hrange : InInt64 length := by
    unfold maxInt64 at h
    constructor <;> omega
  rw [Met, wrapInt64_of_inInt64 hrange]

end Demand

def verdict : List Demand → Except Fault Unit
  | [] => .ok ()
  | d :: rest => if d.Met then verdict rest else .error d.fault

theorem verdict_append_of_error {first : List Demand} {fault : Fault}
    (h : verdict first = .error fault) (second : List Demand) :
    verdict (first ++ second) = .error fault := by
  induction first with
  | nil => cases h
  | cons d rest ih =>
    rw [verdict] at h
    rw [List.cons_append, verdict]
    by_cases hd : d.Met
    · rw [if_pos hd] at h ⊢
      exact ih h
    · rw [if_neg hd] at h ⊢
      exact h

theorem verdict_append_of_ok {first : List Demand} (h : verdict first = .ok ())
    (second : List Demand) : verdict (first ++ second) = verdict second := by
  induction first with
  | nil => rfl
  | cons d rest ih =>
    rw [verdict] at h
    rw [List.cons_append, verdict]
    by_cases hd : d.Met
    · rw [if_pos hd] at h ⊢
      exact ih h
    · rw [if_neg hd] at h
      cases h

theorem verdict_eq_ok_iff {demands : List Demand} :
    verdict demands = .ok () ↔ ∀ d ∈ demands, d.Met := by
  induction demands with
  | nil => simp [verdict]
  | cons d rest ih =>
    rw [verdict, List.forall_mem_cons]
    by_cases hd : d.Met
    · rw [if_pos hd, ih, and_iff_right hd]
    · rw [if_neg hd]
      exact iff_of_false nofun fun h => hd h.1

theorem verdict_of_first {before after : List Demand} {d : Demand}
    (hbefore : ∀ earlier ∈ before, earlier.Met) (hd : ¬d.Met) :
    verdict (before ++ d :: after) = .error d.fault := by
  rw [verdict_append_of_ok (verdict_eq_ok_iff.mpr hbefore), verdict, if_neg hd]

theorem checkIntegers_eq_verdict (integers : List (String × Int)) :
    checkIntegers integers = verdict (integers.map Demand.ofInteger) := by
  induction integers with
  | nil => rfl
  | cons integer rest ih =>
    obtain ⟨argument, value⟩ := integer
    rw [checkIntegers, ih]
    rfl

theorem checkLengths_eq_verdict (extents : List (String × Nat × Int)) :
    checkLengths extents = verdict (extents.map Demand.ofExtent) := by
  induction extents with
  | nil => rfl
  | cons extent rest ih =>
    obtain ⟨operand, length, required⟩ := extent
    rw [checkLengths, checkLength, ih, List.map_cons, verdict]
    by_cases hshort : wrapInt64 length < required
    · have hunmet : ¬(Demand.extent operand length required).Met := Int.not_le.mpr hshort
      rw [if_pos hshort]
      exact (if_neg hunmet).symm
    · have hmet : (Demand.extent operand length required).Met := Int.not_lt.mp hshort
      rw [if_neg hshort]
      exact (if_pos hmet).symm

/-! ## The demands of a request -/

def gemmDemands (p : Gemm α Slice) : List Demand :=
  (gemmIntegers p).map Demand.ofInteger ++ (gemmExtents p).map Demand.ofExtent

/-- One group after the other, each with its own share of the entries: the integers of the group,
then the operands of each entry. -/
def groupDemands {γ ε : Type} (size : γ → Int) (integers : γ → List (String × Int))
    (extents : γ → ε → List (String × Nat × Int)) (groups : List γ) (entries : List ε) :
    List Demand :=
  (groups.zip ((groups.map fun g => (size g).toNat).splitLengths entries)).flatMap
    fun (g, share) =>
      (integers g).map Demand.ofInteger ++ (share.flatMap (extents g)).map Demand.ofExtent

def demands : Request k → Option (List Demand)
  | .buffers (.gemm p) => some (gemmDemands (p.map contents))
  | .slices (.gemm p) _ => some (gemmDemands p)
  | .groups (.gemm groups a b c) _ =>
    some (groupDemands (·.size) gemmGroupIntegers gemmGroupExtents groups (a.zip (b.zip c)))
  | .groups (.trsm groups a b) _ =>
    some (groupDemands (·.size) trsmGroupIntegers trsmGroupExtents groups (a.zip b))
  | _ => none

/-- The library provides products in every memory convention, and triangular solves in groups. -/
def Provided : Request k → Prop
  | .groups call _ => call.routine = .gemm ∨ call.routine = .trsm
  | .buffers call | .slices call _ => call.routine = .gemm

theorem demands_isSome_iff (r : Request k) : (demands r).isSome ↔ Provided r := by
  cases r with
  | buffers call => cases call <;> simp [demands, Provided, Batch.routine]
  | slices call dependencies => cases call <;> simp [demands, Provided, Batch.routine]
  | groups call dependencies => cases call <;> simp [demands, Provided, Grouped.routine]

theorem gemmDemands_integers_first (p : Gemm α Slice) :
    (gemmDemands p).Pairwise fun earlier later => later.isInteger → earlier.isInteger := by
  have hintegers : ∀ d ∈ (gemmIntegers p).map Demand.ofInteger, d.isInteger :=
    List.forall_mem_map.mpr fun _ _ => rfl
  have hextents : ∀ d ∈ (gemmExtents p).map Demand.ofExtent, d.isInteger = false :=
    List.forall_mem_map.mpr fun _ _ => rfl
  rw [gemmDemands, List.pairwise_append]
  refine ⟨?_, ?_, ?_⟩
  · apply List.pairwise_of_forall_mem_list
    intro earlier hearlier later _ _
    exact hintegers earlier hearlier
  · apply List.pairwise_of_forall_mem_list
    intro earlier _ later hlater hinteger
    rw [hextents later hlater] at hinteger
    cases hinteger
  · intro earlier hearlier later _ _
    exact hintegers earlier hearlier

theorem demands_integers_first {r : Request k} {ds : List Demand} (h : demands r = some ds)
    (hgroups : ∀ call dependencies, r ≠ .groups call dependencies) :
    ds.Pairwise fun earlier later => later.isInteger → earlier.isInteger := by
  unfold demands at h
  split at h
  · cases h
    exact gemmDemands_integers_first _
  · cases h
    exact gemmDemands_integers_first _
  · exact absurd rfl (hgroups _ _)
  · exact absurd rfl (hgroups _ _)
  · cases h

theorem checkGemm_eq_verdict (p : Gemm α Slice) : checkGemm p = verdict (gemmDemands p) := by
  rw [checkGemm, gemmDemands, checkIntegers_eq_verdict, checkLengths_eq_verdict]
  cases hintegers : verdict ((gemmIntegers p).map Demand.ofInteger) with
  | error fault => exact (verdict_append_of_error hintegers _).symm
  | ok u => exact (verdict_append_of_ok hintegers _).symm

/-- The later groups share what the first one leaves of the entries. -/
theorem groupDemands_cons {γ ε : Type} (size : γ → Int) (integers : γ → List (String × Int))
    (extents : γ → ε → List (String × Nat × Int)) (g : γ) (rest : List γ) (entries : List ε) :
    groupDemands size integers extents (g :: rest) entries =
      (integers g).map Demand.ofInteger ++
        (((entries.take (size g).toNat).flatMap (extents g)).map Demand.ofExtent ++
          groupDemands size integers extents rest (entries.drop (size g).toNat)) := by
  simp [groupDemands]

theorem checkShares_eq_verdict {γ ε : Type} (size : γ → Int)
    (integers : γ → List (String × Int)) (extents : γ → ε → List (String × Nat × Int))
    (groups : List γ) (entries : List ε) :
    checkShares size integers extents groups entries =
      verdict (groupDemands size integers extents groups entries) := by
  induction groups generalizing entries with
  | nil => rfl
  | cons g rest ih =>
    rw [groupDemands_cons, checkShares, ih, checkIntegers_eq_verdict, checkLengths_eq_verdict]
    cases hintegers : verdict ((integers g).map Demand.ofInteger) with
    | error fault => exact (verdict_append_of_error hintegers _).symm
    | ok u =>
      rw [verdict_append_of_ok hintegers]
      cases hextents : verdict
          (((entries.take (size g).toNat).flatMap (extents g)).map Demand.ofExtent) with
      | error fault => exact (verdict_append_of_error hextents _).symm
      | ok u => exact (verdict_append_of_ok hextents _).symm

theorem checkGemmGroups_eq_verdict {groups : List (GemmGroup α)} {a b c : List Slice}
    (h : (Grouped.gemm groups a b c).Covered) :
    checkGemmGroups groups a b c =
      verdict (groupDemands (·.size) gemmGroupIntegers gemmGroupExtents groups
        (a.zip (b.zip c))) := by
  have hcheck : checkGroups (groups.map (·.size)) [("a", a), ("b", b), ("c", c)] = .ok () :=
    Grouped.check_eq_ok_iff.mpr h
  rw [checkGemmGroups, hcheck]
  exact checkShares_eq_verdict _ _ _ _ _

theorem checkTrsmGroups_eq_verdict {groups : List (TrsmGroup α)} {a b : List Slice}
    (h : (Grouped.trsm groups a b).Covered) :
    checkTrsmGroups groups a b =
      verdict (groupDemands (·.size) trsmGroupIntegers trsmGroupExtents groups (a.zip b)) := by
  have hcheck : checkGroups (groups.map (·.size)) [("a", a), ("b", b)] = .ok () :=
    Grouped.check_eq_ok_iff.mpr h
  rw [checkTrsmGroups, hcheck]
  exact checkShares_eq_verdict _ _ _ _ _

/-! ## Refusals -/

def refusal (queue : Queue) (layout : Layout) (r : Request k) : Error :=
  match demands r with
  | none => unsupported r.routine layout
  | some demands => answer queue layout r.routine (verdict demands)

theorem handle_backend (queue : Queue) (layout : Layout) (r : Request k) (valid : r.Valid) (w : ω) :
    r.handle backend queue layout w = (.error (refusal queue layout r), w) := by
  cases r with
  | buffers call =>
    cases call with
    | gemm p =>
      rw [Request.handle, onBuffers_gemm, checkGemm_eq_verdict]
      rfl
    | _ => rfl
  | slices call dependencies =>
    cases call with
    | gemm p =>
      rw [Request.handle, onSlices_gemm, checkGemm_eq_verdict]
      rfl
    | _ => rfl
  | groups call dependencies =>
    cases call with
    | gemm groups a b c =>
      rw [Request.handle, onGroups_gemm, checkGemmGroups_eq_verdict valid]
      rfl
    | trsm groups a b =>
      rw [Request.handle, onGroups_trsm, checkTrsmGroups_eq_verdict valid]
      rfl
    | _ => rfl

theorem refusal_rowMajor (queue : Queue) (r : Request k) :
    refusal queue .rowMajor r = .unimplemented "blas" r.routine.name "for row_major layout" := by
  unfold refusal
  cases demands r with
  | none => rfl
  | some demands => rfl

theorem refusal_columnMajor_of_demands (queue : Queue) {r : Request k} {ds : List Demand}
    (h : demands r = some ds) :
    (refusal queue .columnMajor r = .backendUnavailable "blas" queue.device.text ↔
        ∀ d ∈ ds, d.Met) ∧
      ∀ before d after, ds = before ++ d :: after → (∀ earlier ∈ before, earlier.Met) → ¬d.Met →
        refusal queue .columnMajor r = d.error r.routine := by
  have hrefusal : refusal queue .columnMajor r =
      answer queue .columnMajor r.routine (verdict ds) := by
    unfold refusal
    rw [h]
  rw [hrefusal]
  constructor
  · rw [← verdict_eq_ok_iff]
    cases verdict ds with
    | ok u => exact iff_of_true rfl rfl
    | error fault =>
      have hother : fault.toError r.routine.name ≠
          .backendUnavailable "blas" queue.device.text := by
        cases fault <;> exact nofun
      exact iff_of_false hother nofun
  · rintro before d after rfl hbefore hd
    rw [verdict_of_first hbefore hd]
    exact d.toError_fault r.routine

/-! ## The classes of refusals -/

def tooFar : Gemm (Element .single) Buffer where
  transA := .none
  transB := .none
  m := 2
  n := 2
  k := 2
  alpha := .zero .single
  a := ⟨⟨0, 3⟩, 2, 4⟩
  b := ⟨⟨0, 3⟩, 2, 4⟩
  beta := .zero .single
  c := ⟨⟨1, 4⟩, 2, 2 ^ 31⟩
  batchSize := 1

end Offload.Blas.RocBlas
