import Offload.Blas.Backend

/-!
# The backend for AMD devices

The AMD library stores matrices by columns and provides products in all three conventions and grouped
triangular solves. Its integers have 32 bits, and every operand must hold the elements that the call
touches. No library is linked here, so a call that passes these checks finds its routines missing.
-/

set_option autoImplicit false

namespace Offload.Blas.RocBlas

/-- The rows and columns in memory of a matrix that is `rows` by `cols` in the product. -/
def storedShape (trans : Transpose) (rows cols : Int) : Int × Int :=
  if trans.isTransposed then (cols, rows) else (rows, cols)

def storedExtent (trans : Transpose) (rows cols ld : Int) : Int :=
  let (rows, cols) := storedShape trans rows cols
  matrixExtent rows cols ld

/-! ## Products with strided entries -/

variable {α : Type}

/-- The integers of a product, in the order in which they are checked. -/
def gemmIntegers (p : Gemm α Slice) : List (String × Int) :=
  [("m", p.m), ("n", p.n), ("k", p.k), ("lda", p.a.step), ("ldb", p.b.step), ("ldc", p.c.step),
    ("stride_a", p.a.stride), ("stride_b", p.b.stride), ("stride_c", p.c.stride),
    ("batch_size", p.batchSize)]

def gemmExtents (p : Gemm α Slice) : List (String × Nat × Int) :=
  [("a", p.a.data.length,
      stridedExtent (storedExtent p.transA p.m p.k p.a.step) p.a.stride p.batchSize),
    ("b", p.b.data.length,
      stridedExtent (storedExtent p.transB p.k p.n p.b.step) p.b.stride p.batchSize),
    ("c", p.c.data.length,
      stridedExtent (matrixExtent p.m p.n p.c.step) p.c.stride p.batchSize)]

def checkLengths : List (String × Nat × Int) → Except Fault Unit
  | [] => .ok ()
  | (operand, length, required) :: rest =>
    match checkLength operand length required with
    | .error fault => .error fault
    | .ok () => checkLengths rest

def checkGemm (p : Gemm α Slice) : Except Fault Unit :=
  match checkIntegers (gemmIntegers p) with
  | .error fault => .error fault
  | .ok () => checkLengths (gemmExtents p)

/-! ## Grouped entries -/

/-- Checks the groups one by one, each with its own share of the entries: first the integers of the
group, then the lengths of each entry of its share. -/
def checkShares {γ ε : Type} (size : γ → Int) (integers : γ → List (String × Int))
    (lengths : γ → ε → List (String × Nat × Int)) : List γ → List ε → Except Fault Unit
  | [], _ => .ok ()
  | g :: rest, entries =>
    match checkIntegers (integers g) with
    | .error fault => .error fault
    | .ok () =>
      match checkLengths ((entries.take (size g).toNat).flatMap (lengths g)) with
      | .error fault => .error fault
      | .ok () => checkShares size integers lengths rest (entries.drop (size g).toNat)

def gemmGroupIntegers (g : GemmGroup α) : List (String × Int) :=
  [("m", g.m), ("n", g.n), ("k", g.k), ("lda", g.lda), ("ldb", g.ldb), ("ldc", g.ldc),
    ("group_size", g.size)]

def gemmGroupExtents (g : GemmGroup α) (entry : Slice × Slice × Slice) :
    List (String × Nat × Int) :=
  let (a, b, c) := entry
  [("a", a.length, storedExtent g.transA g.m g.k g.lda),
    ("b", b.length, storedExtent g.transB g.k g.n g.ldb),
    ("c", c.length, matrixExtent g.m g.n g.ldc)]

def checkGemmGroups (groups : List (GemmGroup α)) (a b c : List Slice) : Except Fault Unit :=
  match checkGroups (groups.map (·.size)) [("a", a), ("b", b), ("c", c)] with
  | .error fault => .error fault
  | .ok () =>
    checkShares (·.size) gemmGroupIntegers gemmGroupExtents groups (a.zip (b.zip c))

def trsmGroupIntegers (g : TrsmGroup α) : List (String × Int) :=
  [("m", g.m), ("n", g.n), ("lda", g.lda), ("ldb", g.ldb), ("group_size", g.size)]

/-- What one triangular solve of a group touches in each of its operands. The triangular matrix has
the order of the side it stands on. -/
def trsmGroupExtents (g : TrsmGroup α) (entry : Slice × Slice) : List (String × Nat × Int) :=
  let (a, b) := entry
  let order := if g.side = .left then g.m else g.n
  [("a", a.length, matrixExtent order order g.lda), ("b", b.length, matrixExtent g.m g.n g.ldb)]

def checkTrsmGroups (groups : List (TrsmGroup α)) (a b : List Slice) : Except Fault Unit :=
  match checkGroups (groups.map (·.size)) [("a", a), ("b", b)] with
  | .error fault => .error fault
  | .ok () => checkShares (·.size) trsmGroupIntegers trsmGroupExtents groups (a.zip b)

/-! ## The backend -/

/-- The answer to a call of a provided routine: rows are not supported as layout, then the checks
come, and then the routines of the library are missing. -/
def answer (queue : Queue) (layout : Layout) (routine : Routine) (check : Except Fault Unit) :
    Error :=
  match layout with
  | .rowMajor => unsupported routine layout
  | .columnMajor =>
    match check with
    | .error fault => fault.toError routine.name
    | .ok () => .backendUnavailable "blas" queue.device.text

def contents (b : Buffer) : Slice := ⟨b.length⟩

/-- The contents of the second operand. Where it is the first one, that is read once for both. -/
def secondContents (a b : Buffer) : Slice :=
  if b.storage = a.storage then contents a else contents b

theorem secondContents_eq (a b : Buffer) : secondContents a b = contents b := by
  unfold secondContents contents Buffer.length
  split
  · rename_i hsame
    rw [hsame]
  · rfl

def routines {ω : Type} : BatchRoutines ω α where
  gemmBatchBuffer queue layout transA transB m n k alpha a lda strideA b ldb strideB beta c ldc
      strideC batchSize :=
    Action.refuse (answer queue layout .gemm (checkGemm ⟨transA, transB, m, n, k, alpha,
      ⟨contents a, lda, strideA⟩, ⟨secondContents a b, ldb, strideB⟩, beta,
      ⟨contents c, ldc, strideC⟩, batchSize⟩))
  gemmBatchStrided queue layout transA transB m n k alpha a lda strideA b ldb strideB beta c ldc
      strideC batchSize _ :=
    Action.refuse (answer queue layout .gemm (checkGemm ⟨transA, transB, m, n, k, alpha,
      ⟨a, lda, strideA⟩, ⟨b, ldb, strideB⟩, beta, ⟨c, ldc, strideC⟩, batchSize⟩))
  gemmBatchGroup queue layout groups a b c _ :=
    Action.refuse (answer queue layout .gemm (checkGemmGroups groups a b c))
  trsmBatchGroup queue layout groups a b _ :=
    Action.refuse (answer queue layout .trsm (checkTrsmGroups groups a b))

def backend {ω : Type} : Backend ω where
  name := "rocblas"
  supports device := device.vendor == .amd
  routines _ := routines

section Methods

variable {ω : Type} {k : ElementKind} (queue : Queue) (layout : Layout)

theorem onBuffers_gemm (p : Gemm (Element k) Buffer) :
    (backend : Backend ω).onBuffers k queue layout (.gemm p) =
      Action.refuse (answer queue layout .gemm (checkGemm (p.map contents))) := by
  have hsecond := secondContents_eq p.a.data p.b.data
  exact congrArg (fun second => Action.refuse (answer queue layout .gemm (checkGemm
    { p.map contents with b := ⟨second, p.b.step, p.b.stride⟩ }))) hsecond

theorem onSlices_gemm (p : Gemm (Element k) Slice) (dependencies : List Event) :
    (backend : Backend ω).onSlices k queue layout (.gemm p) dependencies =
      Action.refuse (answer queue layout .gemm (checkGemm p)) := rfl

theorem onGroups_gemm (groups : List (GemmGroup (Element k))) (a b c : List Slice)
    (dependencies : List Event) :
    (backend : Backend ω).onGroups k queue layout (.gemm groups a b c) dependencies =
      Action.refuse (answer queue layout .gemm (checkGemmGroups groups a b c)) := rfl

theorem onGroups_trsm (groups : List (TrsmGroup (Element k))) (a b : List Slice)
    (dependencies : List Event) :
    (backend : Backend ω).onGroups k queue layout (.trsm groups a b) dependencies =
      Action.refuse (answer queue layout .trsm (checkTrsmGroups groups a b)) := rfl

end Methods

end Offload.Blas.RocBlas
