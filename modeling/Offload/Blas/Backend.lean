import Offload.Blas.Checks
import Offload.Element
import Offload.Machine
import Offload.Registry

/-!
# Backends of the batched routines

A backend has for every element type one method for each routine and memory convention: on buffers,
waiting for the result, and on slices of memory with strided or grouped entries, returning an event.
What a backend does not provide it reports as not implemented for the layout of the call.
-/

set_option autoImplicit false

namespace Offload.Blas

def unsupported (routine : Routine) (layout : Layout) : Error :=
  let name := layout.name
  .unimplemented "blas" routine.name s!"for {name} layout"

/-- The methods of a backend for scalars of type `α`, on a state `ω`. -/
structure BatchRoutines (ω α : Type) where
  copyBatchBuffer (queue : Queue) (layout : Layout) (n : Int) (x : Buffer) (incx stridex : Int)
      (y : Buffer) (incy stridey batchSize : Int) : Action ω Unit :=
    Action.refuse (unsupported .copy layout)
  copyBatchStrided (queue : Queue) (layout : Layout) (n : Int) (x : Slice) (incx stridex : Int)
      (y : Slice) (incy stridey batchSize : Int) (dependencies : List Event) : Action ω Event :=
    Action.refuse (unsupported .copy layout)
  copyBatchGroup (queue : Queue) (layout : Layout) (groups : List CopyGroup) (x y : List Slice)
      (dependencies : List Event) : Action ω Event :=
    Action.refuse (unsupported .copy layout)
  axpyBatchBuffer (queue : Queue) (layout : Layout) (n : Int) (alpha : α) (x : Buffer)
      (incx stridex : Int) (y : Buffer) (incy stridey batchSize : Int) : Action ω Unit :=
    Action.refuse (unsupported .axpy layout)
  axpyBatchStrided (queue : Queue) (layout : Layout) (n : Int) (alpha : α) (x : Slice)
      (incx stridex : Int) (y : Slice) (incy stridey batchSize : Int) (dependencies : List Event) :
      Action ω Event :=
    Action.refuse (unsupported .axpy layout)
  axpyBatchGroup (queue : Queue) (layout : Layout) (groups : List (AxpyGroup α)) (x y : List Slice)
      (dependencies : List Event) : Action ω Event :=
    Action.refuse (unsupported .axpy layout)
  gemvBatchBuffer (queue : Queue) (layout : Layout) (trans : Transpose) (m n : Int) (alpha : α)
      (a : Buffer) (lda strideA : Int) (x : Buffer) (incx strideX : Int) (beta : α) (y : Buffer)
      (incy strideY batchSize : Int) : Action ω Unit :=
    Action.refuse (unsupported .gemv layout)
  gemvBatchStrided (queue : Queue) (layout : Layout) (trans : Transpose) (m n : Int) (alpha : α)
      (a : Slice) (lda strideA : Int) (x : Slice) (incx strideX : Int) (beta : α) (y : Slice)
      (incy strideY batchSize : Int) (dependencies : List Event) : Action ω Event :=
    Action.refuse (unsupported .gemv layout)
  gemvBatchGroup (queue : Queue) (layout : Layout) (groups : List (GemvGroup α))
      (a x y : List Slice) (dependencies : List Event) : Action ω Event :=
    Action.refuse (unsupported .gemv layout)
  dgmmBatchBuffer (queue : Queue) (layout : Layout) (side : Side) (m n : Int) (a : Buffer)
      (lda strideA : Int) (x : Buffer) (incx strideX : Int) (c : Buffer)
      (ldc strideC batchSize : Int) : Action ω Unit :=
    Action.refuse (unsupported .dgmm layout)
  dgmmBatchStrided (queue : Queue) (layout : Layout) (side : Side) (m n : Int) (a : Slice)
      (lda strideA : Int) (x : Slice) (incx strideX : Int) (c : Slice) (ldc strideC batchSize : Int)
      (dependencies : List Event) : Action ω Event :=
    Action.refuse (unsupported .dgmm layout)
  dgmmBatchGroup (queue : Queue) (layout : Layout) (groups : List DgmmGroup) (a x c : List Slice)
      (dependencies : List Event) : Action ω Event :=
    Action.refuse (unsupported .dgmm layout)
  gemmBatchBuffer (queue : Queue) (layout : Layout) (transA transB : Transpose) (m n k : Int)
      (alpha : α) (a : Buffer) (lda strideA : Int) (b : Buffer) (ldb strideB : Int) (beta : α)
      (c : Buffer) (ldc strideC batchSize : Int) : Action ω Unit :=
    Action.refuse (unsupported .gemm layout)
  gemmBatchStrided (queue : Queue) (layout : Layout) (transA transB : Transpose) (m n k : Int)
      (alpha : α) (a : Slice) (lda strideA : Int) (b : Slice) (ldb strideB : Int) (beta : α)
      (c : Slice) (ldc strideC batchSize : Int) (dependencies : List Event) : Action ω Event :=
    Action.refuse (unsupported .gemm layout)
  gemmBatchGroup (queue : Queue) (layout : Layout) (groups : List (GemmGroup α))
      (a b c : List Slice) (dependencies : List Event) : Action ω Event :=
    Action.refuse (unsupported .gemm layout)
  trsmBatchBuffer (queue : Queue) (layout : Layout) (side : Side) (triangle : Triangle)
      (trans : Transpose) (diagonal : Diagonal) (m n : Int) (alpha : α) (a : Buffer)
      (lda strideA : Int) (b : Buffer) (ldb strideB batchSize : Int) : Action ω Unit :=
    Action.refuse (unsupported .trsm layout)
  trsmBatchStrided (queue : Queue) (layout : Layout) (side : Side) (triangle : Triangle)
      (trans : Transpose) (diagonal : Diagonal) (m n : Int) (alpha : α) (a : Slice)
      (lda strideA : Int) (b : Slice) (ldb strideB batchSize : Int) (dependencies : List Event) :
      Action ω Event :=
    Action.refuse (unsupported .trsm layout)
  trsmBatchGroup (queue : Queue) (layout : Layout) (groups : List (TrsmGroup α)) (a b : List Slice)
      (dependencies : List Event) : Action ω Event :=
    Action.refuse (unsupported .trsm layout)
  syrkBatchBuffer (queue : Queue) (layout : Layout) (triangle : Triangle) (trans : Transpose)
      (n k : Int) (alpha : α) (a : Buffer) (lda strideA : Int) (beta : α) (c : Buffer)
      (ldc strideC batchSize : Int) : Action ω Unit :=
    Action.refuse (unsupported .syrk layout)
  syrkBatchStrided (queue : Queue) (layout : Layout) (triangle : Triangle) (trans : Transpose)
      (n k : Int) (alpha : α) (a : Slice) (lda strideA : Int) (beta : α) (c : Slice)
      (ldc strideC batchSize : Int) (dependencies : List Event) : Action ω Event :=
    Action.refuse (unsupported .syrk layout)
  syrkBatchGroup (queue : Queue) (layout : Layout) (groups : List (SyrkGroup α)) (a c : List Slice)
      (dependencies : List Event) : Action ω Event :=
    Action.refuse (unsupported .syrk layout)
  omatcopyBatchBuffer (queue : Queue) (layout : Layout) (trans : Transpose) (m n : Int) (alpha : α)
      (a : Buffer) (lda strideA : Int) (b : Buffer) (ldb strideB batchSize : Int) : Action ω Unit :=
    Action.refuse (unsupported .omatcopy layout)
  omatcopyBatchStrided (queue : Queue) (layout : Layout) (trans : Transpose) (m n : Int) (alpha : α)
      (a : Slice) (lda strideA : Int) (b : Slice) (ldb strideB batchSize : Int)
      (dependencies : List Event) : Action ω Event :=
    Action.refuse (unsupported .omatcopy layout)
  omatcopyBatchGroup (queue : Queue) (layout : Layout) (groups : List (MatcopyGroup α))
      (a b : List Slice) (dependencies : List Event) : Action ω Event :=
    Action.refuse (unsupported .omatcopy layout)
  imatcopyBatchBuffer (queue : Queue) (layout : Layout) (trans : Transpose) (m n : Int) (alpha : α)
      (ab : Buffer) (lda ldb stride batchSize : Int) : Action ω Unit :=
    Action.refuse (unsupported .imatcopy layout)
  imatcopyBatchStrided (queue : Queue) (layout : Layout) (trans : Transpose) (m n : Int) (alpha : α)
      (ab : Slice) (lda ldb stride batchSize : Int) (dependencies : List Event) : Action ω Event :=
    Action.refuse (unsupported .imatcopy layout)
  imatcopyBatchGroup (queue : Queue) (layout : Layout) (groups : List (MatcopyGroup α))
      (ab : List Slice) (dependencies : List Event) : Action ω Event :=
    Action.refuse (unsupported .imatcopy layout)
  omataddBatchBuffer (queue : Queue) (layout : Layout) (transA transB : Transpose) (m n : Int)
      (alpha : α) (a : Buffer) (lda strideA : Int) (beta : α) (b : Buffer) (ldb strideB : Int)
      (c : Buffer) (ldc strideC batchSize : Int) : Action ω Unit :=
    Action.refuse (unsupported .omatadd layout)
  omataddBatchStrided (queue : Queue) (layout : Layout) (transA transB : Transpose) (m n : Int)
      (alpha : α) (a : Slice) (lda strideA : Int) (beta : α) (b : Slice) (ldb strideB : Int)
      (c : Slice) (ldc strideC batchSize : Int) (dependencies : List Event) : Action ω Event :=
    Action.refuse (unsupported .omatadd layout)

namespace BatchRoutines

variable {ω α : Type}

/-! ## Calls as data -/

def onBuffers (r : BatchRoutines ω α) (queue : Queue) (layout : Layout) :
    Batch α Buffer → Action ω Unit
  | .copy c =>
    r.copyBatchBuffer queue layout c.n c.x.data c.x.step c.x.stride c.y.data c.y.step c.y.stride
      c.batchSize
  | .axpy c =>
    r.axpyBatchBuffer queue layout c.n c.alpha c.x.data c.x.step c.x.stride c.y.data c.y.step
      c.y.stride c.batchSize
  | .gemv c =>
    r.gemvBatchBuffer queue layout c.trans c.m c.n c.alpha c.a.data c.a.step c.a.stride c.x.data
      c.x.step c.x.stride c.beta c.y.data c.y.step c.y.stride c.batchSize
  | .dgmm c =>
    r.dgmmBatchBuffer queue layout c.side c.m c.n c.a.data c.a.step c.a.stride c.x.data c.x.step
      c.x.stride c.c.data c.c.step c.c.stride c.batchSize
  | .gemm c =>
    r.gemmBatchBuffer queue layout c.transA c.transB c.m c.n c.k c.alpha c.a.data c.a.step
      c.a.stride c.b.data c.b.step c.b.stride c.beta c.c.data c.c.step c.c.stride c.batchSize
  | .trsm c =>
    r.trsmBatchBuffer queue layout c.side c.triangle c.trans c.diagonal c.m c.n c.alpha c.a.data
      c.a.step c.a.stride c.b.data c.b.step c.b.stride c.batchSize
  | .syrk c =>
    r.syrkBatchBuffer queue layout c.triangle c.trans c.n c.k c.alpha c.a.data c.a.step c.a.stride
      c.beta c.c.data c.c.step c.c.stride c.batchSize
  | .omatcopy c =>
    r.omatcopyBatchBuffer queue layout c.trans c.m c.n c.alpha c.a.data c.a.step c.a.stride c.b.data
      c.b.step c.b.stride c.batchSize
  | .imatcopy c =>
    r.imatcopyBatchBuffer queue layout c.trans c.m c.n c.alpha c.ab c.lda c.ldb c.stride c.batchSize
  | .omatadd c =>
    r.omataddBatchBuffer queue layout c.transA c.transB c.m c.n c.alpha c.a.data c.a.step c.a.stride
      c.beta c.b.data c.b.step c.b.stride c.c.data c.c.step c.c.stride c.batchSize

def onSlices (r : BatchRoutines ω α) (queue : Queue) (layout : Layout) (call : Batch α Slice)
    (dependencies : List Event) : Action ω Event :=
  match call with
  | .copy c =>
    r.copyBatchStrided queue layout c.n c.x.data c.x.step c.x.stride c.y.data c.y.step c.y.stride
      c.batchSize dependencies
  | .axpy c =>
    r.axpyBatchStrided queue layout c.n c.alpha c.x.data c.x.step c.x.stride c.y.data c.y.step
      c.y.stride c.batchSize dependencies
  | .gemv c =>
    r.gemvBatchStrided queue layout c.trans c.m c.n c.alpha c.a.data c.a.step c.a.stride c.x.data
      c.x.step c.x.stride c.beta c.y.data c.y.step c.y.stride c.batchSize dependencies
  | .dgmm c =>
    r.dgmmBatchStrided queue layout c.side c.m c.n c.a.data c.a.step c.a.stride c.x.data c.x.step
      c.x.stride c.c.data c.c.step c.c.stride c.batchSize dependencies
  | .gemm c =>
    r.gemmBatchStrided queue layout c.transA c.transB c.m c.n c.k c.alpha c.a.data c.a.step
      c.a.stride c.b.data c.b.step c.b.stride c.beta c.c.data c.c.step c.c.stride c.batchSize
      dependencies
  | .trsm c =>
    r.trsmBatchStrided queue layout c.side c.triangle c.trans c.diagonal c.m c.n c.alpha c.a.data
      c.a.step c.a.stride c.b.data c.b.step c.b.stride c.batchSize dependencies
  | .syrk c =>
    r.syrkBatchStrided queue layout c.triangle c.trans c.n c.k c.alpha c.a.data c.a.step c.a.stride
      c.beta c.c.data c.c.step c.c.stride c.batchSize dependencies
  | .omatcopy c =>
    r.omatcopyBatchStrided queue layout c.trans c.m c.n c.alpha c.a.data c.a.step c.a.stride
      c.b.data c.b.step c.b.stride c.batchSize dependencies
  | .imatcopy c =>
    r.imatcopyBatchStrided queue layout c.trans c.m c.n c.alpha c.ab c.lda c.ldb c.stride
      c.batchSize dependencies
  | .omatadd c =>
    r.omataddBatchStrided queue layout c.transA c.transB c.m c.n c.alpha c.a.data c.a.step
      c.a.stride c.beta c.b.data c.b.step c.b.stride c.c.data c.c.step c.c.stride c.batchSize
      dependencies

def onGroups (r : BatchRoutines ω α) (queue : Queue) (layout : Layout) (call : Grouped α Slice)
    (dependencies : List Event) : Action ω Event :=
  match call with
  | .copy groups x y => r.copyBatchGroup queue layout groups x y dependencies
  | .axpy groups x y => r.axpyBatchGroup queue layout groups x y dependencies
  | .gemv groups a x y => r.gemvBatchGroup queue layout groups a x y dependencies
  | .dgmm groups a x c => r.dgmmBatchGroup queue layout groups a x c dependencies
  | .gemm groups a b c => r.gemmBatchGroup queue layout groups a b c dependencies
  | .trsm groups a b => r.trsmBatchGroup queue layout groups a b dependencies
  | .syrk groups a c => r.syrkBatchGroup queue layout groups a c dependencies
  | .omatcopy groups a b => r.omatcopyBatchGroup queue layout groups a b dependencies
  | .imatcopy groups ab => r.imatcopyBatchGroup queue layout groups ab dependencies

/-- The methods that hand their arguments on as one call. -/
def ofCalls (onBuffers : Queue → Layout → Batch α Buffer → Action ω Unit)
    (onSlices : Queue → Layout → Batch α Slice → List Event → Action ω Event)
    (onGroups : Queue → Layout → Grouped α Slice → List Event → Action ω Event) :
    BatchRoutines ω α where
  copyBatchBuffer queue layout n x incx stridex y incy stridey batchSize :=
    onBuffers queue layout (.copy ⟨n, ⟨x, incx, stridex⟩, ⟨y, incy, stridey⟩, batchSize⟩)
  copyBatchStrided queue layout n x incx stridex y incy stridey batchSize dependencies :=
    onSlices queue layout (.copy ⟨n, ⟨x, incx, stridex⟩, ⟨y, incy, stridey⟩, batchSize⟩)
      dependencies
  copyBatchGroup queue layout groups x y dependencies :=
    onGroups queue layout (.copy groups x y) dependencies
  axpyBatchBuffer queue layout n alpha x incx stridex y incy stridey batchSize :=
    onBuffers queue layout (.axpy ⟨n, alpha, ⟨x, incx, stridex⟩, ⟨y, incy, stridey⟩, batchSize⟩)
  axpyBatchStrided queue layout n alpha x incx stridex y incy stridey batchSize dependencies :=
    onSlices queue layout (.axpy ⟨n, alpha, ⟨x, incx, stridex⟩, ⟨y, incy, stridey⟩, batchSize⟩)
      dependencies
  axpyBatchGroup queue layout groups x y dependencies :=
    onGroups queue layout (.axpy groups x y) dependencies
  gemvBatchBuffer queue layout trans m n alpha a lda strideA x incx strideX beta y incy strideY
      batchSize :=
    onBuffers queue layout (.gemv ⟨trans, m, n, alpha, ⟨a, lda, strideA⟩, ⟨x, incx, strideX⟩, beta,
      ⟨y, incy, strideY⟩, batchSize⟩)
  gemvBatchStrided queue layout trans m n alpha a lda strideA x incx strideX beta y incy strideY
      batchSize dependencies :=
    onSlices queue layout (.gemv ⟨trans, m, n, alpha, ⟨a, lda, strideA⟩, ⟨x, incx, strideX⟩, beta,
      ⟨y, incy, strideY⟩, batchSize⟩) dependencies
  gemvBatchGroup queue layout groups a x y dependencies :=
    onGroups queue layout (.gemv groups a x y) dependencies
  dgmmBatchBuffer queue layout side m n a lda strideA x incx strideX c ldc strideC batchSize :=
    onBuffers queue layout (.dgmm ⟨side, m, n, ⟨a, lda, strideA⟩, ⟨x, incx, strideX⟩, ⟨c, ldc,
      strideC⟩, batchSize⟩)
  dgmmBatchStrided queue layout side m n a lda strideA x incx strideX c ldc strideC batchSize
      dependencies :=
    onSlices queue layout (.dgmm ⟨side, m, n, ⟨a, lda, strideA⟩, ⟨x, incx, strideX⟩, ⟨c, ldc,
      strideC⟩, batchSize⟩) dependencies
  dgmmBatchGroup queue layout groups a x c dependencies :=
    onGroups queue layout (.dgmm groups a x c) dependencies
  gemmBatchBuffer queue layout transA transB m n k alpha a lda strideA b ldb strideB beta c ldc
      strideC batchSize :=
    onBuffers queue layout (.gemm ⟨transA, transB, m, n, k, alpha, ⟨a, lda, strideA⟩, ⟨b, ldb,
      strideB⟩, beta, ⟨c, ldc, strideC⟩, batchSize⟩)
  gemmBatchStrided queue layout transA transB m n k alpha a lda strideA b ldb strideB beta c ldc
      strideC batchSize dependencies :=
    onSlices queue layout (.gemm ⟨transA, transB, m, n, k, alpha, ⟨a, lda, strideA⟩, ⟨b, ldb,
      strideB⟩, beta, ⟨c, ldc, strideC⟩, batchSize⟩) dependencies
  gemmBatchGroup queue layout groups a b c dependencies :=
    onGroups queue layout (.gemm groups a b c) dependencies
  trsmBatchBuffer queue layout side triangle trans diagonal m n alpha a lda strideA b ldb strideB
      batchSize :=
    onBuffers queue layout (.trsm ⟨side, triangle, trans, diagonal, m, n, alpha, ⟨a, lda, strideA⟩,
      ⟨b, ldb, strideB⟩, batchSize⟩)
  trsmBatchStrided queue layout side triangle trans diagonal m n alpha a lda strideA b ldb strideB
      batchSize dependencies :=
    onSlices queue layout (.trsm ⟨side, triangle, trans, diagonal, m, n, alpha, ⟨a, lda, strideA⟩,
      ⟨b, ldb, strideB⟩, batchSize⟩) dependencies
  trsmBatchGroup queue layout groups a b dependencies :=
    onGroups queue layout (.trsm groups a b) dependencies
  syrkBatchBuffer queue layout triangle trans n k alpha a lda strideA beta c ldc strideC batchSize
      :=
    onBuffers queue layout (.syrk ⟨triangle, trans, n, k, alpha, ⟨a, lda, strideA⟩, beta, ⟨c, ldc,
      strideC⟩, batchSize⟩)
  syrkBatchStrided queue layout triangle trans n k alpha a lda strideA beta c ldc strideC batchSize
      dependencies :=
    onSlices queue layout (.syrk ⟨triangle, trans, n, k, alpha, ⟨a, lda, strideA⟩, beta, ⟨c, ldc,
      strideC⟩, batchSize⟩) dependencies
  syrkBatchGroup queue layout groups a c dependencies :=
    onGroups queue layout (.syrk groups a c) dependencies
  omatcopyBatchBuffer queue layout trans m n alpha a lda strideA b ldb strideB batchSize :=
    onBuffers queue layout (.omatcopy ⟨trans, m, n, alpha, ⟨a, lda, strideA⟩, ⟨b, ldb, strideB⟩,
      batchSize⟩)
  omatcopyBatchStrided queue layout trans m n alpha a lda strideA b ldb strideB batchSize
      dependencies :=
    onSlices queue layout (.omatcopy ⟨trans, m, n, alpha, ⟨a, lda, strideA⟩, ⟨b, ldb, strideB⟩,
      batchSize⟩) dependencies
  omatcopyBatchGroup queue layout groups a b dependencies :=
    onGroups queue layout (.omatcopy groups a b) dependencies
  imatcopyBatchBuffer queue layout trans m n alpha ab lda ldb stride batchSize :=
    onBuffers queue layout (.imatcopy ⟨trans, m, n, alpha, ab, lda, ldb, stride, batchSize⟩)
  imatcopyBatchStrided queue layout trans m n alpha ab lda ldb stride batchSize dependencies :=
    onSlices queue layout (.imatcopy ⟨trans, m, n, alpha, ab, lda, ldb, stride, batchSize⟩)
      dependencies
  imatcopyBatchGroup queue layout groups ab dependencies :=
    onGroups queue layout (.imatcopy groups ab) dependencies
  omataddBatchBuffer queue layout transA transB m n alpha a lda strideA beta b ldb strideB c ldc
      strideC batchSize :=
    onBuffers queue layout (.omatadd ⟨transA, transB, m, n, alpha, ⟨a, lda, strideA⟩, beta, ⟨b, ldb,
      strideB⟩, ⟨c, ldc, strideC⟩, batchSize⟩)
  omataddBatchStrided queue layout transA transB m n alpha a lda strideA beta b ldb strideB c ldc
      strideC batchSize dependencies :=
    onSlices queue layout (.omatadd ⟨transA, transB, m, n, alpha, ⟨a, lda, strideA⟩, beta, ⟨b, ldb,
      strideB⟩, ⟨c, ldc, strideC⟩, batchSize⟩) dependencies

end BatchRoutines

structure Backend (ω : Type) where
  name : String
  supports : Device → Bool
  routines : (k : ElementKind) → BatchRoutines ω (Element k)

namespace Backend

variable {ω : Type}

instance : Served (Backend ω) where
  name b := b.name
  supports b := b.supports

def bare (name : String) (supports : Device → Bool) : Backend ω := ⟨name, supports, fun _ => {}⟩

def onBuffers (b : Backend ω) (k : ElementKind) (queue : Queue) (layout : Layout)
    (call : Batch (Element k) Buffer) : Action ω Unit :=
  (b.routines k).onBuffers queue layout call

def onSlices (b : Backend ω) (k : ElementKind) (queue : Queue) (layout : Layout)
    (call : Batch (Element k) Slice) (dependencies : List Event) : Action ω Event :=
  (b.routines k).onSlices queue layout call dependencies

def onGroups (b : Backend ω) (k : ElementKind) (queue : Queue) (layout : Layout)
    (call : Grouped (Element k) Slice) (dependencies : List Event) : Action ω Event :=
  (b.routines k).onGroups queue layout call dependencies

end Backend

end Offload.Blas
