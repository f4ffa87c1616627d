import Offload.Blas.RocBlas

/-!
# Bounds of strided products

A product that passes its checks goes to the vendor library, which finds the entries of a batch by
stride and the elements of an entry by column. `covered_iff` compares what the library touches with
what was checked: the check bounds the elements from above, and takes a negative stride for zero. So
an operand is covered just when its stride is not negative, or there is nothing to stride over.
-/

set_option autoImplicit false

namespace Offload.Blas.RocBlas

open Number

variable {α : Type}

/-! ## The elements of a batch of matrices -/

structure Matrices where
  rows : Int
  cols : Int
  ld : Int
  stride : Int
  length : Nat

namespace Matrices

def index (x : Matrices) (i r c : Int) : Int := i * x.stride + c * x.ld + r

/-- Every element of every matrix lies in the operand. -/
def Covered (x : Matrices) (batch : Int) : Prop :=
  ∀ i r c, 0 ≤ i → i < batch → 0 ≤ r → r < x.rows → 0 ≤ c → c < x.cols →
    0 ≤ x.index i r c ∧ x.index i r c < x.length

/-- No matrix lies before the first one. -/
def StridesForward (x : Matrices) (batch : Int) : Prop :=
  0 ≤ x.stride ∨ batch ≤ 1 ∨ x.rows ≤ 0 ∨ x.cols ≤ 0

def required (x : Matrices) (batch : Int) : Int :=
  stridedExtent (matrixExtent x.rows x.cols x.ld) x.stride batch

variable {x : Matrices} {batch i r c : Int}

theorem mul_stride_le (hi : 0 ≤ i) (hlast : i < batch) :
    i * x.stride ≤ max x.stride 0 * (batch - 1) := by
  have hmax : i * x.stride ≤ i * max x.stride 0 :=
    Int.mul_le_mul_of_nonneg_left (by omega) hi
  have hlast : i * max x.stride 0 ≤ (batch - 1) * max x.stride 0 :=
    Int.mul_le_mul_of_nonneg_right (by omega) (by omega)
  rw [Int.mul_comm (max x.stride 0)]
  omega

theorem index_lt_required (hld : x.rows ≤ x.ld) (hi : 0 ≤ i) (hbatch : i < batch) (hr : 0 ≤ r)
    (hrows : r < x.rows) (hc : 0 ≤ c) (hcols : c < x.cols) :
    x.index i r c < x.required batch := by
  have hmatrix : matrixExtent x.rows x.cols x.ld = x.ld * (x.cols - 1) + x.rows := by
    rw [matrixExtent, if_neg (by omega), Int.max_eq_left hld]
  have hcolumn : c * x.ld ≤ x.ld * (x.cols - 1) := by
    rw [Int.mul_comm x.ld]
    exact Int.mul_le_mul_of_nonneg_right (by omega) (by omega)
  have hpositive : 0 ≤ c * x.ld := Int.mul_nonneg hc (by omega)
  have hstride := mul_stride_le (x := x) hi hbatch
  rw [required, stridedExtent, if_neg (by omega), hmatrix, index]
  omega

theorem index_nonneg (hld : x.rows ≤ x.ld) (hforward : x.StridesForward batch) (hi : 0 ≤ i)
    (hbatch : i < batch) (hr : 0 ≤ r) (hrows : r < x.rows) (hc : 0 ≤ c) (hcols : c < x.cols) :
    0 ≤ x.index i r c := by
  have hcolumn : 0 ≤ c * x.ld := Int.mul_nonneg hc (by omega)
  have hstart : 0 ≤ i * x.stride := by
    rcases hforward with hstride | hone | hempty | hempty
    · exact Int.mul_nonneg hi hstride
    · have hzero : i = 0 := by omega
      exact Int.le_of_eq (by rw [hzero, Int.zero_mul])
    · omega
    · omega
  rw [index]
  omega

/-- An operand that holds what it is asked to is covered just when its stride goes forward. -/
theorem covered_iff (hld : x.rows ≤ x.ld) (hlength : x.required batch ≤ x.length) :
    x.Covered batch ↔ x.StridesForward batch := by
  constructor
  · intro hcovered
    by_cases hempty : batch ≤ 1 ∨ x.rows ≤ 0 ∨ x.cols ≤ 0
    · exact .inr hempty
    · -- The first element of the second matrix has the stride as its index.
      obtain ⟨hstart, -⟩ := hcovered 1 0 0 (by omega) (by omega) (by omega) (by omega) (by omega)
        (by omega)
      refine .inl ?_
      rw [index] at hstart
      omega
  · intro hforward i r c hi hbatch hr hrows hc hcols
    have hlast := index_lt_required hld hi hbatch hr hrows hc hcols
    exact ⟨index_nonneg hld hforward hi hbatch hr hrows hc hcols, by omega⟩

end Matrices

/-! ## The checks of a product -/

def operands (p : Gemm α Slice) : List Matrices :=
  let (aRows, aCols) := storedShape p.transA p.m p.k
  let (bRows, bCols) := storedShape p.transB p.k p.n
  [⟨aRows, aCols, p.a.step, p.a.stride, p.a.data.length⟩,
    ⟨bRows, bCols, p.b.step, p.b.stride, p.b.data.length⟩,
    ⟨p.m, p.n, p.c.step, p.c.stride, p.c.data.length⟩]

theorem gemmExtents_eq (p : Gemm α Slice) :
    gemmExtents p = List.zipWith (fun name x => (name, x.length, x.required p.batchSize))
      ["a", "b", "c"] (operands p) := rfl

theorem checkLengths_eq_ok_iff {extents : List (String × Nat × Int)} :
    checkLengths extents = .ok () ↔ ∀ e ∈ extents, e.2.2 ≤ wrapInt64 e.2.1 := by
  induction extents with
  | nil => simp [checkLengths]
  | cons e rest ih =>
    obtain ⟨operand, length, required⟩ := e
    rw [checkLengths, checkLength, List.forall_mem_cons]
    by_cases h : wrapInt64 length < required
    · simp [h, Int.not_le.2 h]
    · simp [h, ih, Int.not_lt.1 h]

theorem wrapInt64_le (n : Nat) : wrapInt64 n ≤ n := by
  unfold wrapInt64
  rw [Int.bmod_def]
  split <;> omega

theorem required_le_of_checkGemm {p : Gemm α Slice} (h : checkGemm p = .ok ()) :
    ∀ x ∈ operands p, x.required p.batchSize ≤ x.length := by
  have hlengths : checkLengths (gemmExtents p) = .ok () := by
    unfold checkGemm at h
    cases hi : checkIntegers (gemmIntegers p) with
    | error fault => simp [hi] at h
    | ok u => simpa [hi] using h
  rw [checkLengths_eq_ok_iff, gemmExtents_eq] at hlengths
  simp only [operands, List.zipWith_cons_cons, List.zipWith_nil_left, List.forall_mem_cons,
    List.not_mem_nil, false_imp_iff, implies_true, and_true] at hlengths ⊢
  obtain ⟨ha, hb, hc⟩ := hlengths
  exact ⟨Int.le_trans ha (wrapInt64_le _), Int.le_trans hb (wrapInt64_le _),
    Int.le_trans hc (wrapInt64_le _)⟩

theorem check_of_answer {queue : Queue} {routine : Routine} {check : Except Fault Unit}
    (h : answer queue .columnMajor routine check =
      .backendUnavailable "blas" queue.device.text) : check = .ok () := by
  cases check with
  | ok u => rfl
  | error fault => cases fault <;> simp [answer, Fault.toError] at h

theorem onSlices_of_check {ω : Type} {k : ElementKind} {p : Gemm (Element k) Slice}
    (h : checkGemm p = .ok ()) (queue : Queue) (dependencies : List Event) (w : ω) :
    (backend.onSlices k queue .columnMajor (.gemm p) dependencies w).1 =
      .error (.backendUnavailable "blas" queue.device.text) := by
  rw [onSlices_gemm]
  simp only [Action.refuse, answer, h]

/-- Of a product by columns that passes its checks and gets as far as the library, on slices or on
buffers, an operand is covered just when its stride is not negative, or there is only one entry, or
its matrices are empty. Leading dimensions are at least the rows of the matrices in memory, as the
library asks. -/
theorem gemm_covered_iff {ω : Type} (k : ElementKind) (queue : Queue) (dependencies : List Event)
    (p : Gemm (Element k) Slice) (w : ω)
    (reached :
      (backend.onSlices k queue .columnMajor (.gemm p) dependencies w).1 =
        .error (.backendUnavailable "blas" queue.device.text) ∨
      ∃ q : Gemm (Element k) Buffer, q.map contents = p ∧
        (backend.onBuffers k queue .columnMajor (.gemm q) w).1 =
          .error (.backendUnavailable "blas" queue.device.text))
    (hld : ∀ x ∈ operands p, x.rows ≤ x.ld) :
    ∀ x ∈ operands p, x.Covered p.batchSize ↔ x.StridesForward p.batchSize := by
  have hcheck : checkGemm p = .ok () := by
    rcases reached with hslices | ⟨q, rfl, hbuffers⟩
    · rw [onSlices_gemm] at hslices
      exact check_of_answer (Except.error.inj hslices)
    · rw [onBuffers_gemm] at hbuffers
      exact check_of_answer (Except.error.inj hbuffers)
  intro x hx
  exact Matrices.covered_iff (hld x hx) (required_le_of_checkGemm hcheck x hx)

def onePair (stride : Int) : Gemm (Element .double) Slice where
  transA := .none
  transB := .none
  m := 1
  n := 1
  k := 1
  alpha := .zero .double
  a := ⟨⟨2⟩, 1, stride⟩
  b := ⟨⟨2⟩, 1, 1⟩
  beta := .zero .double
  c := ⟨⟨2⟩, 1, 1⟩
  batchSize := 2

theorem gemm_covered_iff_onePair :
    (⟨1, 1, 1, 1, 2⟩ : Matrices) ∈ operands (onePair 1) ∧ Matrices.Covered ⟨1, 1, 1, 1, 2⟩ 2 := by
  have hmem : (⟨1, 1, 1, 1, 2⟩ : Matrices) ∈ operands (onePair 1) := .head _
  have hiff := gemm_covered_iff .double ⟨0, ⟨.amd, 0, "gfx90a"⟩⟩ [] (onePair 1) ()
    (.inl (onSlices_of_check rfl _ [] ())) (by decide) _ hmem
  exact ⟨hmem, hiff.2 (.inl (by decide))⟩

theorem gemm_reaches_before_start :
    let queue : Queue := ⟨0, ⟨.amd, 0, "gfx90a"⟩⟩
    (backend.onSlices .double queue .columnMajor (.gemm (onePair (-1))) [] ()).1 =
        .error (.backendUnavailable "blas" queue.device.text) ∧
      (∀ x ∈ operands (onePair (-1)), x.rows ≤ x.ld) ∧
      ¬∀ x ∈ operands (onePair (-1)), x.Covered 2 := by
  refine ⟨onSlices_of_check rfl _ [] (), by decide, ?_⟩
  intro hcovered
  obtain ⟨hstart, -⟩ := hcovered ⟨1, 1, 1, -1, 2⟩ (.head _) 1 0 0 (by decide) (by decide)
    (by decide) (by decide) (by decide) (by decide)
  exact absurd hstart (by decide)

end Offload.Blas.RocBlas
