import Offload.Blas.Codes

/-!
# Calls of the batched routines

A batched call applies one routine to many small matrices or vectors. `Batch α β` holds the calls
whose entries lie at fixed strides in each operand, `Grouped α β` those whose entries come in groups
of equal parameters with one operand for each entry. `α` is the type of scalars and `β` that of
operands. Every field keeps the position it has in the argument list of its routine.
-/

set_option autoImplicit false

namespace Offload.Blas

inductive Routine
  | copy
  | axpy
  | gemv
  | dgmm
  | gemm
  | trsm
  | syrk
  | omatcopy
  | imatcopy
  | omatadd
deriving DecidableEq, Repr

def Routine.name : Routine → String
  | copy => "copy_batch"
  | axpy => "axpy_batch"
  | gemv => "gemv_batch"
  | dgmm => "dgmm_batch"
  | gemm => "gemm_batch"
  | trsm => "trsm_batch"
  | syrk => "syrk_batch"
  | omatcopy => "omatcopy_batch"
  | imatcopy => "imatcopy_batch"
  | omatadd => "omatadd_batch"

/-! ## Operands -/

/-- What a buffer stands for. It is known by its place, and its length does not change. -/
structure Storage where
  address : Nat
  length : Nat
deriving DecidableEq, Repr

/-- Buffers with the same storage are aliases. -/
structure Buffer where
  storage : Storage
deriving DecidableEq, Repr

def Buffer.length (b : Buffer) : Nat := b.storage.length

/-- A piece of memory that the caller manages. -/
structure Slice where
  length : Nat
deriving DecidableEq, Repr

/-- An operand whose entries lie at a fixed stride. -/
structure Strided (β : Type) where
  data : β
  /-- The increment of a vector, or the leading dimension of a matrix. -/
  step : Int
  stride : Int
deriving DecidableEq, Repr

/-! ## Calls with strided entries -/

structure Copy (β : Type) where
  n : Int
  x : Strided β
  y : Strided β
  batchSize : Int

structure Axpy (α β : Type) where
  n : Int
  alpha : α
  x : Strided β
  y : Strided β
  batchSize : Int

structure Gemv (α β : Type) where
  trans : Transpose
  m : Int
  n : Int
  alpha : α
  a : Strided β
  x : Strided β
  beta : α
  y : Strided β
  batchSize : Int

/-- A matrix times the diagonal matrix of `x`. -/
structure Dgmm (β : Type) where
  side : Side
  m : Int
  n : Int
  a : Strided β
  x : Strided β
  c : Strided β
  batchSize : Int

structure Gemm (α β : Type) where
  transA : Transpose
  transB : Transpose
  m : Int
  n : Int
  k : Int
  alpha : α
  a : Strided β
  b : Strided β
  beta : α
  c : Strided β
  batchSize : Int

structure Trsm (α β : Type) where
  side : Side
  triangle : Triangle
  trans : Transpose
  diagonal : Diagonal
  m : Int
  n : Int
  alpha : α
  a : Strided β
  b : Strided β
  batchSize : Int

structure Syrk (α β : Type) where
  triangle : Triangle
  trans : Transpose
  n : Int
  k : Int
  alpha : α
  a : Strided β
  beta : α
  c : Strided β
  batchSize : Int

structure Omatcopy (α β : Type) where
  trans : Transpose
  m : Int
  n : Int
  alpha : α
  a : Strided β
  b : Strided β
  batchSize : Int

structure Imatcopy (α β : Type) where
  trans : Transpose
  m : Int
  n : Int
  alpha : α
  ab : β
  lda : Int
  ldb : Int
  stride : Int
  batchSize : Int

structure Omatadd (α β : Type) where
  transA : Transpose
  transB : Transpose
  m : Int
  n : Int
  alpha : α
  a : Strided β
  beta : α
  b : Strided β
  c : Strided β
  batchSize : Int

inductive Batch (α β : Type)
  | copy (call : Copy β)
  | axpy (call : Axpy α β)
  | gemv (call : Gemv α β)
  | dgmm (call : Dgmm β)
  | gemm (call : Gemm α β)
  | trsm (call : Trsm α β)
  | syrk (call : Syrk α β)
  | omatcopy (call : Omatcopy α β)
  | imatcopy (call : Imatcopy α β)
  | omatadd (call : Omatadd α β)

/-! ## Groups of equal parameters -/

structure CopyGroup where
  n : Int
  incx : Int
  incy : Int
  size : Int

structure AxpyGroup (α : Type) where
  n : Int
  alpha : α
  incx : Int
  incy : Int
  size : Int

structure GemvGroup (α : Type) where
  trans : Transpose
  m : Int
  n : Int
  alpha : α
  lda : Int
  incx : Int
  beta : α
  incy : Int
  size : Int

structure DgmmGroup where
  side : Side
  m : Int
  n : Int
  lda : Int
  incx : Int
  ldc : Int
  size : Int

structure GemmGroup (α : Type) where
  transA : Transpose
  transB : Transpose
  m : Int
  n : Int
  k : Int
  alpha : α
  lda : Int
  ldb : Int
  beta : α
  ldc : Int
  size : Int

structure TrsmGroup (α : Type) where
  side : Side
  triangle : Triangle
  trans : Transpose
  diagonal : Diagonal
  m : Int
  n : Int
  alpha : α
  lda : Int
  ldb : Int
  size : Int

structure SyrkGroup (α : Type) where
  triangle : Triangle
  trans : Transpose
  n : Int
  k : Int
  alpha : α
  lda : Int
  beta : α
  ldc : Int
  size : Int

structure MatcopyGroup (α : Type) where
  trans : Transpose
  m : Int
  n : Int
  alpha : α
  lda : Int
  ldb : Int
  size : Int

/-- A call with grouped entries: the entries of the first group come first in every operand list,
then those of the second, and so on. -/
inductive Grouped (α β : Type)
  | copy (groups : List CopyGroup) (x y : List β)
  | axpy (groups : List (AxpyGroup α)) (x y : List β)
  | gemv (groups : List (GemvGroup α)) (a x y : List β)
  | dgmm (groups : List DgmmGroup) (a x c : List β)
  | gemm (groups : List (GemmGroup α)) (a b c : List β)
  | trsm (groups : List (TrsmGroup α)) (a b : List β)
  | syrk (groups : List (SyrkGroup α)) (a c : List β)
  | omatcopy (groups : List (MatcopyGroup α)) (a b : List β)
  | imatcopy (groups : List (MatcopyGroup α)) (ab : List β)

/-! ## Other operands -/

def Strided.map {β γ : Type} (f : β → γ) (s : Strided β) : Strided γ := ⟨f s.data, s.step, s.stride⟩

def Gemm.map {α β γ : Type} (f : β → γ) (c : Gemm α β) : Gemm α γ :=
  { c with a := c.a.map f, b := c.b.map f, c := c.c.map f }

def Batch.map {α β γ : Type} (f : β → γ) : Batch α β → Batch α γ
  | copy c => copy { c with x := c.x.map f, y := c.y.map f }
  | axpy c => axpy { c with x := c.x.map f, y := c.y.map f }
  | gemv c => gemv { c with a := c.a.map f, x := c.x.map f, y := c.y.map f }
  | dgmm c => dgmm { c with a := c.a.map f, x := c.x.map f, c := c.c.map f }
  | gemm c => gemm (c.map f)
  | trsm c => trsm { c with a := c.a.map f, b := c.b.map f }
  | syrk c => syrk { c with a := c.a.map f, c := c.c.map f }
  | omatcopy c => omatcopy { c with a := c.a.map f, b := c.b.map f }
  | imatcopy c => imatcopy { c with ab := f c.ab }
  | omatadd c => omatadd { c with a := c.a.map f, b := c.b.map f, c := c.c.map f }

/-! ## What a call consists of -/

/-- One argument of a call. Options are given by their codes. -/
inductive Argument (α β : Type)
  | integer (n : Int)
  | scalar (x : α)
  | operand (data : β)

def Strided.arguments {α β : Type} (s : Strided β) : List (Argument α β) :=
  [.operand s.data, .integer s.step, .integer s.stride]

namespace Batch

variable {α β : Type}

def routine : Batch α β → Routine
  | copy _ => .copy
  | axpy _ => .axpy
  | gemv _ => .gemv
  | dgmm _ => .dgmm
  | gemm _ => .gemm
  | trsm _ => .trsm
  | syrk _ => .syrk
  | omatcopy _ => .omatcopy
  | imatcopy _ => .imatcopy
  | omatadd _ => .omatadd

def size : Batch α β → Int
  | copy call => call.batchSize
  | axpy call => call.batchSize
  | gemv call => call.batchSize
  | dgmm call => call.batchSize
  | gemm call => call.batchSize
  | trsm call => call.batchSize
  | syrk call => call.batchSize
  | omatcopy call => call.batchSize
  | imatcopy call => call.batchSize
  | omatadd call => call.batchSize

def arguments : Batch α β → List (Argument α β)
  | copy c => [.integer c.n] ++ c.x.arguments ++ c.y.arguments ++ [.integer c.batchSize]
  | axpy c =>
    [.integer c.n, .scalar c.alpha] ++ c.x.arguments ++ c.y.arguments ++ [.integer c.batchSize]
  | gemv c =>
    [.integer c.trans.code, .integer c.m, .integer c.n, .scalar c.alpha] ++ c.a.arguments ++
      c.x.arguments ++ [.scalar c.beta] ++ c.y.arguments ++ [.integer c.batchSize]
  | dgmm c =>
    [.integer c.side.code, .integer c.m, .integer c.n] ++ c.a.arguments ++ c.x.arguments ++
      c.c.arguments ++ [.integer c.batchSize]
  | gemm c =>
    [.integer c.transA.code, .integer c.transB.code, .integer c.m, .integer c.n, .integer c.k,
      .scalar c.alpha] ++ c.a.arguments ++ c.b.arguments ++ [.scalar c.beta] ++ c.c.arguments ++
      [.integer c.batchSize]
  | trsm c =>
    [.integer c.side.code, .integer c.triangle.code, .integer c.trans.code,
      .integer c.diagonal.code, .integer c.m, .integer c.n, .scalar c.alpha] ++ c.a.arguments ++
      c.b.arguments ++ [.integer c.batchSize]
  | syrk c =>
    [.integer c.triangle.code, .integer c.trans.code, .integer c.n, .integer c.k,
      .scalar c.alpha] ++ c.a.arguments ++ [.scalar c.beta] ++ c.c.arguments ++
      [.integer c.batchSize]
  | omatcopy c =>
    [.integer c.trans.code, .integer c.m, .integer c.n, .scalar c.alpha] ++ c.a.arguments ++
      c.b.arguments ++ [.integer c.batchSize]
  | imatcopy c =>
    [.integer c.trans.code, .integer c.m, .integer c.n, .scalar c.alpha, .operand c.ab,
      .integer c.lda, .integer c.ldb, .integer c.stride, .integer c.batchSize]
  | omatadd c =>
    [.integer c.transA.code, .integer c.transB.code, .integer c.m, .integer c.n,
      .scalar c.alpha] ++ c.a.arguments ++ [.scalar c.beta] ++ c.b.arguments ++ c.c.arguments ++
      [.integer c.batchSize]

end Batch

namespace Grouped

variable {α β : Type}

def routine : Grouped α β → Routine
  | copy .. => .copy
  | axpy .. => .axpy
  | gemv .. => .gemv
  | dgmm .. => .dgmm
  | gemm .. => .gemm
  | trsm .. => .trsm
  | syrk .. => .syrk
  | omatcopy .. => .omatcopy
  | imatcopy .. => .imatcopy

def sizes : Grouped α β → List Int
  | copy groups .. => groups.map (·.size)
  | axpy groups .. => groups.map (·.size)
  | gemv groups .. => groups.map (·.size)
  | dgmm groups .. => groups.map (·.size)
  | gemm groups .. => groups.map (·.size)
  | trsm groups .. => groups.map (·.size)
  | syrk groups .. => groups.map (·.size)
  | omatcopy groups .. => groups.map (·.size)
  | imatcopy groups .. => groups.map (·.size)

def operands : Grouped α β → List (String × List β)
  | copy _ x y => [("x", x), ("y", y)]
  | axpy _ x y => [("x", x), ("y", y)]
  | gemv _ a x y => [("a", a), ("x", x), ("y", y)]
  | dgmm _ a x c => [("a", a), ("x", x), ("c", c)]
  | gemm _ a b c => [("a", a), ("b", b), ("c", c)]
  | trsm _ a b => [("a", a), ("b", b)]
  | syrk _ a c => [("a", a), ("c", c)]
  | omatcopy _ a b => [("a", a), ("b", b)]
  | imatcopy _ ab => [("ab", ab)]

def records : Grouped α β → List (List (Argument α β))
  | copy groups .. =>
    groups.map fun g => [.integer g.n, .integer g.incx, .integer g.incy, .integer g.size]
  | axpy groups .. =>
    groups.map fun g =>
      [.integer g.n, .scalar g.alpha, .integer g.incx, .integer g.incy, .integer g.size]
  | gemv groups .. =>
    groups.map fun g =>
      [.integer g.trans.code, .integer g.m, .integer g.n, .scalar g.alpha, .integer g.lda,
        .integer g.incx, .scalar g.beta, .integer g.incy, .integer g.size]
  | dgmm groups .. =>
    groups.map fun g =>
      [.integer g.side.code, .integer g.m, .integer g.n, .integer g.lda, .integer g.incx,
        .integer g.ldc, .integer g.size]
  | gemm groups .. =>
    groups.map fun g =>
      [.integer g.transA.code, .integer g.transB.code, .integer g.m, .integer g.n, .integer g.k,
        .scalar g.alpha, .integer g.lda, .integer g.ldb, .scalar g.beta, .integer g.ldc,
        .integer g.size]
  | trsm groups .. =>
    groups.map fun g =>
      [.integer g.side.code, .integer g.triangle.code, .integer g.trans.code,
        .integer g.diagonal.code, .integer g.m, .integer g.n, .scalar g.alpha, .integer g.lda,
        .integer g.ldb, .integer g.size]
  | syrk groups .. =>
    groups.map fun g =>
      [.integer g.triangle.code, .integer g.trans.code, .integer g.n, .integer g.k,
        .scalar g.alpha, .integer g.lda, .scalar g.beta, .integer g.ldc, .integer g.size]
  | omatcopy groups .. | imatcopy groups .. =>
    groups.map fun g =>
      [.integer g.trans.code, .integer g.m, .integer g.n, .scalar g.alpha, .integer g.lda,
        .integer g.ldb, .integer g.size]

end Grouped

end Offload.Blas
