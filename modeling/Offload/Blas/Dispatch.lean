import Offload.Blas.Backend

/-!
# Dispatch of batched calls

The entry points of the front-end, three for each routine. Each checks its arguments, picks the
backend for the device of the queue and hands the arguments over as they are. A call that does not
pass is refused before any backend is asked, also when none could serve the device.
-/

set_option autoImplicit false

namespace Offload.Blas

variable {ω : Type}

/-- Hands a call to the backend for the queue's device, once it has passed its check. -/
def forward {γ : Type} (registry : Registry (Backend ω)) (queue : Queue) (routine : Routine)
    (check : Except Fault Unit) (call : Backend ω → Action ω γ) : Action ω γ :=
  match check with
  | .error fault => Action.refuse (fault.toError routine.name)
  | .ok () =>
    match registry.backendFor queue.device with
    | .error e => Action.refuse e
    | .ok backend => call backend

/-! ## Entry points -/

section EntryPoints

variable (registry : Registry (Backend ω)) (layout : Layout) (kind : ElementKind) (queue : Queue)

def copyBatch (n : Int) (x : Buffer) (incx stridex : Int) (y : Buffer)
    (incy stridey batchSize : Int) : Action ω Unit :=
  forward registry queue .copy (checkBuffers batchSize ("y", y.storage) [("x", x.storage)])
    fun backend =>
    (backend.routines kind).copyBatchBuffer queue layout n x incx stridex y incy stridey batchSize

def copyBatchStrided (n : Int) (x : Slice) (incx stridex : Int) (y : Slice)
    (incy stridey batchSize : Int) (dependencies : List Event) : Action ω Event :=
  forward registry queue .copy (checkBatchSize batchSize) fun backend =>
    (backend.routines kind).copyBatchStrided queue layout n x incx stridex y incy stridey batchSize
      dependencies

def copyBatchGroup (groups : List CopyGroup) (x y : List Slice) (dependencies : List Event) :
    Action ω Event :=
  forward registry queue .copy (checkGroups (groups.map (·.size)) [("x", x), ("y", y)])
    fun backend =>
    (backend.routines kind).copyBatchGroup queue layout groups x y dependencies

def axpyBatch (n : Int) (alpha : Element kind) (x : Buffer) (incx stridex : Int) (y : Buffer)
    (incy stridey batchSize : Int) : Action ω Unit :=
  forward registry queue .axpy (checkBuffers batchSize ("y", y.storage) [("x", x.storage)])
    fun backend =>
    (backend.routines kind).axpyBatchBuffer queue layout n alpha x incx stridex y incy stridey
      batchSize

def axpyBatchStrided (n : Int) (alpha : Element kind) (x : Slice) (incx stridex : Int) (y : Slice)
    (incy stridey batchSize : Int) (dependencies : List Event) : Action ω Event :=
  forward registry queue .axpy (checkBatchSize batchSize) fun backend =>
    (backend.routines kind).axpyBatchStrided queue layout n alpha x incx stridex y incy stridey
      batchSize dependencies

def axpyBatchGroup (groups : List (AxpyGroup (Element kind))) (x y : List Slice)
    (dependencies : List Event) : Action ω Event :=
  forward registry queue .axpy (checkGroups (groups.map (·.size)) [("x", x), ("y", y)])
    fun backend =>
    (backend.routines kind).axpyBatchGroup queue layout groups x y dependencies

def gemvBatch (trans : Transpose) (m n : Int) (alpha : Element kind) (a : Buffer)
    (lda strideA : Int) (x : Buffer) (incx strideX : Int) (beta : Element kind) (y : Buffer)
    (incy strideY batchSize : Int) : Action ω Unit :=
  forward registry queue .gemv
    (checkBuffers batchSize ("y", y.storage) [("a", a.storage), ("x", x.storage)]) fun backend =>
    (backend.routines kind).gemvBatchBuffer queue layout trans m n alpha a lda strideA x incx
      strideX beta y incy strideY batchSize

def gemvBatchStrided (trans : Transpose) (m n : Int) (alpha : Element kind) (a : Slice)
    (lda strideA : Int) (x : Slice) (incx strideX : Int) (beta : Element kind) (y : Slice)
    (incy strideY batchSize : Int) (dependencies : List Event) : Action ω Event :=
  forward registry queue .gemv (checkBatchSize batchSize) fun backend =>
    (backend.routines kind).gemvBatchStrided queue layout trans m n alpha a lda strideA x incx
      strideX beta y incy strideY batchSize dependencies

def gemvBatchGroup (groups : List (GemvGroup (Element kind))) (a x y : List Slice)
    (dependencies : List Event) : Action ω Event :=
  forward registry queue .gemv (checkGroups (groups.map (·.size)) [("a", a), ("x", x), ("y", y)])
    fun backend =>
    (backend.routines kind).gemvBatchGroup queue layout groups a x y dependencies

def dgmmBatch (side : Side) (m n : Int) (a : Buffer) (lda strideA : Int) (x : Buffer)
    (incx strideX : Int) (c : Buffer) (ldc strideC batchSize : Int) : Action ω Unit :=
  forward registry queue .dgmm
    (checkBuffers batchSize ("c", c.storage) [("a", a.storage), ("x", x.storage)]) fun backend =>
    (backend.routines kind).dgmmBatchBuffer queue layout side m n a lda strideA x incx strideX c ldc
      strideC batchSize

def dgmmBatchStrided (side : Side) (m n : Int) (a : Slice) (lda strideA : Int) (x : Slice)
    (incx strideX : Int) (c : Slice) (ldc strideC batchSize : Int) (dependencies : List Event) :
    Action ω Event :=
  forward registry queue .dgmm (checkBatchSize batchSize) fun backend =>
    (backend.routines kind).dgmmBatchStrided queue layout side m n a lda strideA x incx strideX c
      ldc strideC batchSize dependencies

def dgmmBatchGroup (groups : List DgmmGroup) (a x c : List Slice) (dependencies : List Event) :
    Action ω Event :=
  forward registry queue .dgmm (checkGroups (groups.map (·.size)) [("a", a), ("x", x), ("c", c)])
    fun backend =>
    (backend.routines kind).dgmmBatchGroup queue layout groups a x c dependencies

def gemmBatch (transA transB : Transpose) (m n k : Int) (alpha : Element kind) (a : Buffer)
    (lda strideA : Int) (b : Buffer) (ldb strideB : Int) (beta : Element kind) (c : Buffer)
    (ldc strideC batchSize : Int) : Action ω Unit :=
  forward registry queue .gemm
    (checkBuffers batchSize ("c", c.storage) [("a", a.storage), ("b", b.storage)]) fun backend =>
    (backend.routines kind).gemmBatchBuffer queue layout transA transB m n k alpha a lda strideA b
      ldb strideB beta c ldc strideC batchSize

def gemmBatchStrided (transA transB : Transpose) (m n k : Int) (alpha : Element kind) (a : Slice)
    (lda strideA : Int) (b : Slice) (ldb strideB : Int) (beta : Element kind) (c : Slice)
    (ldc strideC batchSize : Int) (dependencies : List Event) : Action ω Event :=
  forward registry queue .gemm (checkBatchSize batchSize) fun backend =>
    (backend.routines kind).gemmBatchStrided queue layout transA transB m n k alpha a lda strideA b
      ldb strideB beta c ldc strideC batchSize dependencies

def gemmBatchGroup (groups : List (GemmGroup (Element kind))) (a b c : List Slice)
    (dependencies : List Event) : Action ω Event :=
  forward registry queue .gemm (checkGroups (groups.map (·.size)) [("a", a), ("b", b), ("c", c)])
    fun backend =>
    (backend.routines kind).gemmBatchGroup queue layout groups a b c dependencies

def trsmBatch (side : Side) (triangle : Triangle) (trans : Transpose) (diagonal : Diagonal)
    (m n : Int) (alpha : Element kind) (a : Buffer) (lda strideA : Int) (b : Buffer)
    (ldb strideB batchSize : Int) : Action ω Unit :=
  forward registry queue .trsm (checkBuffers batchSize ("b", b.storage) [("a", a.storage)])
    fun backend =>
    (backend.routines kind).trsmBatchBuffer queue layout side triangle trans diagonal m n alpha a
      lda strideA b ldb strideB batchSize

def trsmBatchStrided (side : Side) (triangle : Triangle) (trans : Transpose) (diagonal : Diagonal)
    (m n : Int) (alpha : Element kind) (a : Slice) (lda strideA : Int) (b : Slice)
    (ldb strideB batchSize : Int) (dependencies : List Event) : Action ω Event :=
  forward registry queue .trsm (checkBatchSize batchSize) fun backend =>
    (backend.routines kind).trsmBatchStrided queue layout side triangle trans diagonal m n alpha a
      lda strideA b ldb strideB batchSize dependencies

def trsmBatchGroup (groups : List (TrsmGroup (Element kind))) (a b : List Slice)
    (dependencies : List Event) : Action ω Event :=
  forward registry queue .trsm (checkGroups (groups.map (·.size)) [("a", a), ("b", b)])
    fun backend =>
    (backend.routines kind).trsmBatchGroup queue layout groups a b dependencies

def syrkBatch (triangle : Triangle) (trans : Transpose) (n k : Int) (alpha : Element kind)
    (a : Buffer) (lda strideA : Int) (beta : Element kind) (c : Buffer)
    (ldc strideC batchSize : Int) : Action ω Unit :=
  forward registry queue .syrk (checkBuffers batchSize ("c", c.storage) [("a", a.storage)])
    fun backend =>
    (backend.routines kind).syrkBatchBuffer queue layout triangle trans n k alpha a lda strideA beta
      c ldc strideC batchSize

def syrkBatchStrided (triangle : Triangle) (trans : Transpose) (n k : Int) (alpha : Element kind)
    (a : Slice) (lda strideA : Int) (beta : Element kind) (c : Slice) (ldc strideC batchSize : Int)
    (dependencies : List Event) : Action ω Event :=
  forward registry queue .syrk (checkBatchSize batchSize) fun backend =>
    (backend.routines kind).syrkBatchStrided queue layout triangle trans n k alpha a lda strideA
      beta c ldc strideC batchSize dependencies

def syrkBatchGroup (groups : List (SyrkGroup (Element kind))) (a c : List Slice)
    (dependencies : List Event) : Action ω Event :=
  forward registry queue .syrk (checkGroups (groups.map (·.size)) [("a", a), ("c", c)])
    fun backend =>
    (backend.routines kind).syrkBatchGroup queue layout groups a c dependencies

def omatcopyBatch (trans : Transpose) (m n : Int) (alpha : Element kind) (a : Buffer)
    (lda strideA : Int) (b : Buffer) (ldb strideB batchSize : Int) : Action ω Unit :=
  forward registry queue .omatcopy (checkBuffers batchSize ("b", b.storage) [("a", a.storage)])
    fun backend =>
    (backend.routines kind).omatcopyBatchBuffer queue layout trans m n alpha a lda strideA b ldb
      strideB batchSize

def omatcopyBatchStrided (trans : Transpose) (m n : Int) (alpha : Element kind) (a : Slice)
    (lda strideA : Int) (b : Slice) (ldb strideB batchSize : Int) (dependencies : List Event) :
    Action ω Event :=
  forward registry queue .omatcopy (checkBatchSize batchSize) fun backend =>
    (backend.routines kind).omatcopyBatchStrided queue layout trans m n alpha a lda strideA b ldb
      strideB batchSize dependencies

def omatcopyBatchGroup (groups : List (MatcopyGroup (Element kind))) (a b : List Slice)
    (dependencies : List Event) : Action ω Event :=
  forward registry queue .omatcopy (checkGroups (groups.map (·.size)) [("a", a), ("b", b)])
    fun backend =>
    (backend.routines kind).omatcopyBatchGroup queue layout groups a b dependencies

def imatcopyBatch (trans : Transpose) (m n : Int) (alpha : Element kind) (ab : Buffer)
    (lda ldb stride batchSize : Int) : Action ω Unit :=
  forward registry queue .imatcopy (checkBatchSize batchSize) fun backend =>
    (backend.routines kind).imatcopyBatchBuffer queue layout trans m n alpha ab lda ldb stride
      batchSize

def imatcopyBatchStrided (trans : Transpose) (m n : Int) (alpha : Element kind) (ab : Slice)
    (lda ldb stride batchSize : Int) (dependencies : List Event) : Action ω Event :=
  forward registry queue .imatcopy (checkBatchSize batchSize) fun backend =>
    (backend.routines kind).imatcopyBatchStrided queue layout trans m n alpha ab lda ldb stride
      batchSize dependencies

def imatcopyBatchGroup (groups : List (MatcopyGroup (Element kind))) (ab : List Slice)
    (dependencies : List Event) : Action ω Event :=
  forward registry queue .imatcopy (checkGroups (groups.map (·.size)) [("ab", ab)]) fun backend =>
    (backend.routines kind).imatcopyBatchGroup queue layout groups ab dependencies

def omataddBatch (transA transB : Transpose) (m n : Int) (alpha : Element kind) (a : Buffer)
    (lda strideA : Int) (beta : Element kind) (b : Buffer) (ldb strideB : Int) (c : Buffer)
    (ldc strideC batchSize : Int) : Action ω Unit :=
  forward registry queue .omatadd
    (checkBuffers batchSize ("c", c.storage) [("a", a.storage), ("b", b.storage)]) fun backend =>
    (backend.routines kind).omataddBatchBuffer queue layout transA transB m n alpha a lda strideA
      beta b ldb strideB c ldc strideC batchSize

def omataddBatchStrided (transA transB : Transpose) (m n : Int) (alpha : Element kind) (a : Slice)
    (lda strideA : Int) (beta : Element kind) (b : Slice) (ldb strideB : Int) (c : Slice)
    (ldc strideC batchSize : Int) (dependencies : List Event) : Action ω Event :=
  forward registry queue .omatadd (checkBatchSize batchSize) fun backend =>
    (backend.routines kind).omataddBatchStrided queue layout transA transB m n alpha a lda strideA
      beta b ldb strideB c ldc strideC batchSize dependencies

end EntryPoints

/-! ## Calls as data -/

def callOnBuffers (registry : Registry (Backend ω)) (k : ElementKind) (queue : Queue)
    (layout : Layout) : Batch (Element k) Buffer → Action ω Unit
  | .copy c =>
    copyBatch registry layout k queue c.n c.x.data c.x.step c.x.stride c.y.data c.y.step c.y.stride
      c.batchSize
  | .axpy c =>
    axpyBatch registry layout k queue c.n c.alpha c.x.data c.x.step c.x.stride c.y.data c.y.step
      c.y.stride c.batchSize
  | .gemv c =>
    gemvBatch registry layout k queue c.trans c.m c.n c.alpha c.a.data c.a.step c.a.stride c.x.data
      c.x.step c.x.stride c.beta c.y.data c.y.step c.y.stride c.batchSize
  | .dgmm c =>
    dgmmBatch registry layout k queue c.side c.m c.n c.a.data c.a.step c.a.stride c.x.data c.x.step
      c.x.stride c.c.data c.c.step c.c.stride c.batchSize
  | .gemm c =>
    gemmBatch registry layout k queue c.transA c.transB c.m c.n c.k c.alpha c.a.data c.a.step
      c.a.stride c.b.data c.b.step c.b.stride c.beta c.c.data c.c.step c.c.stride c.batchSize
  | .trsm c =>
    trsmBatch registry layout k queue c.side c.triangle c.trans c.diagonal c.m c.n c.alpha c.a.data
      c.a.step c.a.stride c.b.data c.b.step c.b.stride c.batchSize
  | .syrk c =>
    syrkBatch registry layout k queue c.triangle c.trans c.n c.k c.alpha c.a.data c.a.step
      c.a.stride c.beta c.c.data c.c.step c.c.stride c.batchSize
  | .omatcopy c =>
    omatcopyBatch registry layout k queue c.trans c.m c.n c.alpha c.a.data c.a.step c.a.stride
      c.b.data c.b.step c.b.stride c.batchSize
  | .imatcopy c =>
    imatcopyBatch registry layout k queue c.trans c.m c.n c.alpha c.ab c.lda c.ldb c.stride
      c.batchSize
  | .omatadd c =>
    omataddBatch registry layout k queue c.transA c.transB c.m c.n c.alpha c.a.data c.a.step
      c.a.stride c.beta c.b.data c.b.step c.b.stride c.c.data c.c.step c.c.stride c.batchSize

def callOnSlices (registry : Registry (Backend ω)) (k : ElementKind) (queue : Queue)
    (layout : Layout) (call : Batch (Element k) Slice) (dependencies : List Event) :
    Action ω Event :=
  match call with
  | .copy c =>
    copyBatchStrided registry layout k queue c.n c.x.data c.x.step c.x.stride c.y.data c.y.step
      c.y.stride c.batchSize dependencies
  | .axpy c =>
    axpyBatchStrided registry layout k queue c.n c.alpha c.x.data c.x.step c.x.stride c.y.data
      c.y.step c.y.stride c.batchSize dependencies
  | .gemv c =>
    gemvBatchStrided registry layout k queue c.trans c.m c.n c.alpha c.a.data c.a.step c.a.stride
      c.x.data c.x.step c.x.stride c.beta c.y.data c.y.step c.y.stride c.batchSize dependencies
  | .dgmm c =>
    dgmmBatchStrided registry layout k queue c.side c.m c.n c.a.data c.a.step c.a.stride c.x.data
      c.x.step c.x.stride c.c.data c.c.step c.c.stride c.batchSize dependencies
  | .gemm c =>
    gemmBatchStrided registry layout k queue c.transA c.transB c.m c.n c.k c.alpha c.a.data c.a.step
      c.a.stride c.b.data c.b.step c.b.stride c.beta c.c.data c.c.step c.c.stride c.batchSize
      dependencies
  | .trsm c =>
    trsmBatchStrided registry layout k queue c.side c.triangle c.trans c.diagonal c.m c.n c.alpha
      c.a.data c.a.step c.a.stride c.b.data c.b.step c.b.stride c.batchSize dependencies
  | .syrk c =>
    syrkBatchStrided registry layout k queue c.triangle c.trans c.n c.k c.alpha c.a.data c.a.step
      c.a.stride c.beta c.c.data c.c.step c.c.stride c.batchSize dependencies
  | .omatcopy c =>
    omatcopyBatchStrided registry layout k queue c.trans c.m c.n c.alpha c.a.data c.a.step
      c.a.stride c.b.data c.b.step c.b.stride c.batchSize dependencies
  | .imatcopy c =>
    imatcopyBatchStrided registry layout k queue c.trans c.m c.n c.alpha c.ab c.lda c.ldb c.stride
      c.batchSize dependencies
  | .omatadd c =>
    omataddBatchStrided registry layout k queue c.transA c.transB c.m c.n c.alpha c.a.data c.a.step
      c.a.stride c.beta c.b.data c.b.step c.b.stride c.c.data c.c.step c.c.stride c.batchSize
      dependencies

def callOnGroups (registry : Registry (Backend ω)) (k : ElementKind) (queue : Queue)
    (layout : Layout) (call : Grouped (Element k) Slice) (dependencies : List Event) :
    Action ω Event :=
  match call with
  | .copy groups x y =>
    copyBatchGroup registry layout k queue groups x y dependencies
  | .axpy groups x y =>
    axpyBatchGroup registry layout k queue groups x y dependencies
  | .gemv groups a x y =>
    gemvBatchGroup registry layout k queue groups a x y dependencies
  | .dgmm groups a x c =>
    dgmmBatchGroup registry layout k queue groups a x c dependencies
  | .gemm groups a b c =>
    gemmBatchGroup registry layout k queue groups a b c dependencies
  | .trsm groups a b =>
    trsmBatchGroup registry layout k queue groups a b dependencies
  | .syrk groups a c =>
    syrkBatchGroup registry layout k queue groups a c dependencies
  | .omatcopy groups a b =>
    omatcopyBatchGroup registry layout k queue groups a b dependencies
  | .imatcopy groups ab =>
    imatcopyBatchGroup registry layout k queue groups ab dependencies

end Offload.Blas
