import Offload.Proofs.Blas.GroupShares

/-!
# The arithmetic of the checks fits the machine

The backend computes what a call touches in signed words of 64 bits, and walks the groups with an
unsigned one, without looking for overflow. Before that, each integer of the call has been held
against 32 bits. Every bound here rests on that test: with all factors at their largest, the extent
of a batch stays below the end of the words by five times `2 ^ 31`.
-/

set_option autoImplicit false

namespace Offload.Blas.RocBlas

open Number

variable {α : Type}

/-! ## Machines -/

/-- The words of a machine with 64 bits. A result that fits is exact. Of any other, nothing is known:
it may wrap around, or stop the machine, which is `none`. -/
structure Words where
  signed : Int → Option Int
  unsigned : Nat → Option Nat
  signed_eq {n : Int} : InInt64 n → signed n = some n
  unsigned_eq {n : Nat} : n ≤ maxWord64 → unsigned n = some n

namespace Words

def checked : Words where
  signed n := if InInt64 n then some n else none
  unsigned n := if n ≤ maxWord64 then some n else none
  signed_eq h := if_pos h
  unsigned_eq h := if_pos h

def wrapping : Words where
  signed n := some (wrapInt64 n)
  unsigned n := some (wrapWord64 n)
  signed_eq h := congrArg some (wrapInt64_of_inInt64 h)
  unsigned_eq {n} h := by
    have hrange : InWord64 n := ⟨by omega, by rw [maxWord64] at h; omega⟩
    have hexact := wrapWord64_of_inWord64 hrange
    exact congrArg some (by omega)

variable (words : Words)

/-! ## The checks on a machine -/

/-- What `count` parts at some distance span, the last of which has `last` elements. -/
def spread (distance count last : Int) : Option Int := do
  let steps ← words.signed (count - 1)
  let before ← words.signed (distance * steps)
  words.signed (before + last)

def matrixExtent (rows cols ld : Int) : Option Int :=
  if rows ≤ 0 ∨ cols ≤ 0 then some 0 else words.spread (max ld rows) cols rows

def stridedExtent (extent stride batch : Int) : Option Int :=
  if batch ≤ 0 ∨ extent = 0 then some 0 else words.spread (max stride 0) batch extent

def storedExtent (trans : Transpose) (rows cols ld : Int) : Option Int :=
  let (rows, cols) := storedShape trans rows cols
  words.matrixExtent rows cols ld

def gemmExtents (p : Gemm α Slice) : Option (List (String × Nat × Int)) := do
  let a ← words.storedExtent p.transA p.m p.k p.a.step
  let a ← words.stridedExtent a p.a.stride p.batchSize
  let b ← words.storedExtent p.transB p.k p.n p.b.step
  let b ← words.stridedExtent b p.b.stride p.batchSize
  let c ← words.matrixExtent p.m p.n p.c.step
  let c ← words.stridedExtent c p.c.stride p.batchSize
  return [("a", p.a.data.length, a), ("b", p.b.data.length, b), ("c", p.c.data.length, c)]

def checkGemm (p : Gemm α Slice) : Option (Except Fault Unit) :=
  match checkIntegers (gemmIntegers p) with
  | .error fault => some (.error fault)
  | .ok () => (words.gemmExtents p).map checkLengths

/-- Compares the lengths of operands one by one. What an operand has to hold is computed when its
turn comes. -/
def checkEach : List (String × Nat × Option Int) → Option (Except Fault Unit)
  | [] => some (.ok ())
  | (_, _, none) :: _ => none
  | (operand, length, some required) :: rest =>
    match checkLength operand length required with
    | .error fault => some (.error fault)
    | .ok () => checkEach rest

/-- Checks the groups one by one. The entries of a group lie between the running offset and the
offset plus its size. -/
def checkShares {γ ε : Type} (size : γ → Int) (integers : γ → List (String × Int))
    (lengths : γ → ε → List (String × Nat × Option Int)) (entries : List ε) :
    Nat → List γ → Option (Except Fault Unit)
  | _, [] => some (.ok ())
  | offset, g :: rest =>
    match checkIntegers (integers g) with
    | .error fault => some (.error fault)
    | .ok () =>
      match words.unsigned (offset + wrapWord64 (size g)) with
      | none => none
      | some stop =>
        match checkEach (((entries.take stop).drop offset).flatMap (lengths g)) with
        | none => none
        | some (.error fault) => some (.error fault)
        | some (.ok ()) => checkShares size integers lengths entries stop rest

def gemmGroupExtents (g : GemmGroup α) (entry : Slice × Slice × Slice) :
    List (String × Nat × Option Int) :=
  let (a, b, c) := entry
  [("a", a.length, words.storedExtent g.transA g.m g.k g.lda),
    ("b", b.length, words.storedExtent g.transB g.k g.n g.ldb),
    ("c", c.length, words.matrixExtent g.m g.n g.ldc)]

def checkGemmGroups (groups : List (GemmGroup α)) (a b c : List Slice) :
    Option (Except Fault Unit) :=
  match checkGroups (groups.map (·.size)) [("a", a), ("b", b), ("c", c)] with
  | .error fault => some (.error fault)
  | .ok () =>
    words.checkShares (·.size) gemmGroupIntegers words.gemmGroupExtents (a.zip (b.zip c)) 0 groups

def trsmGroupExtents (g : TrsmGroup α) (entry : Slice × Slice) :
    List (String × Nat × Option Int) :=
  let (a, b) := entry
  let order := if g.side = .left then g.m else g.n
  [("a", a.length, words.matrixExtent order order g.lda),
    ("b", b.length, words.matrixExtent g.m g.n g.ldb)]

def checkTrsmGroups (groups : List (TrsmGroup α)) (a b : List Slice) :
    Option (Except Fault Unit) :=
  match checkGroups (groups.map (·.size)) [("a", a), ("b", b)] with
  | .error fault => some (.error fault)
  | .ok () =>
    words.checkShares (·.size) trsmGroupIntegers words.trsmGroupExtents (a.zip b) 0 groups

/-! ## Bounds -/

def largestProduct : Int := 2147483647 * 2147483646

theorem mul_le_largestProduct {factor count : Int} (hfactor : InInt32 factor)
    (hcount : InInt32 count) (hpositive : 0 < count) :
    factor * (count - 1) ≤ largestProduct := by
  have hlargest : factor * (count - 1) ≤ 2147483647 * (count - 1) :=
    Int.mul_le_mul_of_nonneg_right (by have := hfactor.2; omega) (by omega)
  have hlast := hcount.2
  rw [largestProduct]
  omega

theorem inInt32_max {m n : Int} (hm : InInt32 m) (hn : InInt32 n) : InInt32 (max m n) := by
  rcases Int.le_total m n with h | h
  · rwa [Int.max_eq_right h]
  · rwa [Int.max_eq_left h]

theorem spread_eq {distance count last : Int} (hdistance : InInt32 distance)
    (hforward : 0 ≤ distance) (hcount : InInt32 count) (hpositive : 0 < count) (hlast : 0 ≤ last)
    (hlargest : last ≤ largestProduct + 2147483647) :
    words.spread distance count last = some (distance * (count - 1) + last) := by
  have hnonneg : 0 ≤ distance * (count - 1) := Int.mul_nonneg hforward (by omega)
  have hproduct := mul_le_largestProduct hdistance hcount hpositive
  rw [largestProduct] at hlargest hproduct
  have hsteps : InInt64 (count - 1) := ⟨by omega, by have := hcount.2; omega⟩
  have hbefore : InInt64 (distance * (count - 1)) := ⟨by omega, by omega⟩
  have hwhole : InInt64 (distance * (count - 1) + last) := ⟨by omega, by omega⟩
  simp only [spread, words.signed_eq hsteps, words.signed_eq hbefore, words.signed_eq hwhole,
    Option.bind_eq_bind, Option.bind_some]

variable {rows cols ld : Int}

theorem matrixExtent_le (hrows : InInt32 rows) (hcols : InInt32 cols) (hld : InInt32 ld) :
    Blas.matrixExtent rows cols ld ≤ largestProduct + 2147483647 := by
  have hlast := hrows.2
  rw [Blas.matrixExtent]
  by_cases hempty : rows ≤ 0 ∨ cols ≤ 0
  · rw [if_pos hempty, largestProduct]
    omega
  · rw [if_neg hempty]
    have hcolumns := mul_le_largestProduct (inInt32_max hld hrows) hcols (by omega)
    omega

theorem matrixExtent_eq (hrows : InInt32 rows) (hcols : InInt32 cols) (hld : InInt32 ld) :
    words.matrixExtent rows cols ld = some (Blas.matrixExtent rows cols ld) := by
  rw [matrixExtent, Blas.matrixExtent]
  by_cases hempty : rows ≤ 0 ∨ cols ≤ 0
  · rw [if_pos hempty, if_pos hempty]
  · have hlast := hrows.2
    have hlargest : rows ≤ largestProduct + 2147483647 := by
      rw [largestProduct]
      omega
    rw [if_neg hempty, if_neg hempty, words.spread_eq (inInt32_max hld hrows) (by omega) hcols
      (by omega) (by omega) hlargest]

theorem stridedExtent_eq {extent stride batch : Int} (hnonneg : 0 ≤ extent)
    (hextent : extent ≤ largestProduct + 2147483647) (hstride : InInt32 stride)
    (hbatch : InInt32 batch) :
    words.stridedExtent extent stride batch = some (Blas.stridedExtent extent stride batch) := by
  rw [stridedExtent, Blas.stridedExtent]
  by_cases hempty : batch ≤ 0 ∨ extent = 0
  · rw [if_pos hempty, if_pos hempty]
  · have hforward : InInt32 (max stride 0) := inInt32_max hstride (by decide : InInt32 0)
    rw [if_neg hempty, if_neg hempty, words.spread_eq hforward (by omega) hbatch (by omega)
      hnonneg hextent]

theorem storedExtent_eq (trans : Transpose) (hrows : InInt32 rows) (hcols : InInt32 cols)
    (hld : InInt32 ld) :
    words.storedExtent trans rows cols ld = some (RocBlas.storedExtent trans rows cols ld) := by
  rw [storedExtent, RocBlas.storedExtent, storedShape]
  by_cases htrans : trans.isTransposed
  · simp only [htrans, if_true, words.matrixExtent_eq hcols hrows hld]
  · simp only [htrans, if_false, Bool.false_eq_true, words.matrixExtent_eq hrows hcols hld]

theorem storedExtent_bounds (trans : Transpose) (hrows : InInt32 rows) (hcols : InInt32 cols)
    (hld : InInt32 ld) :
    0 ≤ RocBlas.storedExtent trans rows cols ld ∧
      RocBlas.storedExtent trans rows cols ld ≤ largestProduct + 2147483647 := by
  rw [RocBlas.storedExtent, storedShape]
  by_cases htrans : trans.isTransposed
  · simp only [htrans, if_true]
    exact ⟨matrixExtent_nonneg .., matrixExtent_le hcols hrows hld⟩
  · simp only [htrans, if_false, Bool.false_eq_true]
    exact ⟨matrixExtent_nonneg .., matrixExtent_le hrows hcols hld⟩

/-! ## Calls -/

theorem gemmExtents_eq {p : Gemm α Slice} (h : checkIntegers (gemmIntegers p) = .ok ()) :
    words.gemmExtents p = some (RocBlas.gemmExtents p) := by
  simp only [checkIntegers_eq_ok_iff, gemmIntegers, List.forall_mem_cons] at h
  obtain ⟨hm, hn, hk, hlda, hldb, hldc, hstrideA, hstrideB, hstrideC, hbatch, -⟩ := h
  obtain ⟨ha, hlargeA⟩ := storedExtent_bounds p.transA hm hk hlda
  obtain ⟨hb, hlargeB⟩ := storedExtent_bounds p.transB hk hn hldb
  have hc := matrixExtent_nonneg p.m p.n p.c.step
  have hlargeC := matrixExtent_le hm hn hldc
  simp only [gemmExtents, words.storedExtent_eq p.transA hm hk hlda,
    words.storedExtent_eq p.transB hk hn hldb, words.matrixExtent_eq hm hn hldc,
    words.stridedExtent_eq ha hlargeA hstrideA hbatch,
    words.stridedExtent_eq hb hlargeB hstrideB hbatch,
    words.stridedExtent_eq hc hlargeC hstrideC hbatch, Option.bind_eq_bind, Option.bind_some,
    RocBlas.gemmExtents]
  rfl

theorem checkGemm_eq (p : Gemm α Slice) : words.checkGemm p = some (RocBlas.checkGemm p) := by
  rw [checkGemm, RocBlas.checkGemm]
  cases h : checkIntegers (gemmIntegers p) with
  | error fault => rfl
  | ok u => simp only [words.gemmExtents_eq h, Option.map_some]

def exactly (e : String × Nat × Int) : String × Nat × Option Int := (e.1, e.2.1, some e.2.2)

theorem gemmGroupExtents_eq {g : GemmGroup α} (h : checkIntegers (gemmGroupIntegers g) = .ok ())
    (entry : Slice × Slice × Slice) :
    words.gemmGroupExtents g entry = (RocBlas.gemmGroupExtents g entry).map exactly := by
  simp only [checkIntegers_eq_ok_iff, gemmGroupIntegers, List.forall_mem_cons] at h
  obtain ⟨hm, hn, hk, hlda, hldb, hldc, -⟩ := h
  simp only [gemmGroupExtents, RocBlas.gemmGroupExtents, List.map_cons, List.map_nil, exactly,
    words.storedExtent_eq g.transA hm hk hlda, words.storedExtent_eq g.transB hk hn hldb,
    words.matrixExtent_eq hm hn hldc]

theorem trsmGroupExtents_eq {g : TrsmGroup α} (h : checkIntegers (trsmGroupIntegers g) = .ok ())
    (entry : Slice × Slice) :
    words.trsmGroupExtents g entry = (RocBlas.trsmGroupExtents g entry).map exactly := by
  simp only [checkIntegers_eq_ok_iff, trsmGroupIntegers, List.forall_mem_cons] at h
  obtain ⟨hm, hn, hlda, hldb, -⟩ := h
  have horder : InInt32 (if g.side = .left then g.m else g.n) := by
    by_cases hside : g.side = .left
    · rwa [if_pos hside]
    · rwa [if_neg hside]
  simp only [trsmGroupExtents, RocBlas.trsmGroupExtents, List.map_cons, List.map_nil, exactly,
    words.matrixExtent_eq horder horder hlda, words.matrixExtent_eq hm hn hldb]

theorem checkEach_exactly (extents : List (String × Nat × Int)) :
    checkEach (extents.map exactly) = some (checkLengths extents) := by
  induction extents with
  | nil => rfl
  | cons e rest ih =>
    obtain ⟨operand, length, required⟩ := e
    rw [List.map_cons, exactly, checkEach, checkLengths]
    cases checkLength operand length required with
    | error fault => rfl
    | ok u => exact ih

/-- The offset stays below the total of the sizes, so the walk takes every share from its place. -/
theorem checkShares_eq {γ ε : Type} {size : γ → Int} {integers : γ → List (String × Int)}
    {required : γ → ε → List (String × Nat × Option Int)}
    {lengths : γ → ε → List (String × Nat × Int)}
    (hlengths : ∀ g, checkIntegers (integers g) = .ok () → ∀ entry,
      required g entry = (lengths g entry).map exactly)
    (entries : List ε) {offset : Nat} {groups : List γ} (hsizes : ∀ g ∈ groups, 0 ≤ size g)
    (htotal : offset + (groups.map size).sum ≤ maxInt64) :
    words.checkShares size integers required entries offset groups =
      some (RocBlas.checkShares size integers lengths groups (entries.drop offset)) := by
  induction groups generalizing offset with
  | nil => rfl
  | cons g rest ih =>
    rw [List.forall_mem_cons] at hsizes
    obtain ⟨hsize, hrest⟩ := hsizes
    rw [List.map_cons, List.sum_cons] at htotal
    have hlater : 0 ≤ (rest.map size).sum := List.sum_nonneg (List.forall_mem_map.mpr hrest)
    rw [maxInt64] at htotal
    have hword : wrapWord64 (size g) = (size g).toNat := by
      have hexact := wrapWord64_of_inWord64 (n := size g) ⟨hsize, by omega⟩
      omega
    have hstop : offset + (size g).toNat ≤ maxWord64 := by
      rw [maxWord64]
      omega
    rw [checkShares, RocBlas.checkShares]
    cases hintegers : checkIntegers (integers g) with
    | error fault => rfl
    | ok u =>
      have hshare : ((entries.take (offset + (size g).toNat)).drop offset).flatMap (required g) =
          (((entries.drop offset).take (size g).toNat).flatMap (lengths g)).map exactly := by
        rw [List.drop_take, Nat.add_sub_cancel_left, List.map_flatMap]
        exact List.flatMap_congr fun entry _ => hlengths g hintegers entry
      simp only [hword, words.unsigned_eq hstop, hshare, checkEach_exactly]
      cases checkLengths (((entries.drop offset).take (size g).toNat).flatMap (lengths g)) with
      | error fault => rfl
      | ok u =>
        simp only [List.drop_drop]
        exact ih hrest (by rw [maxInt64]; omega)

theorem checkGemmGroups_eq (groups : List (GemmGroup α)) (a b c : List Slice) :
    words.checkGemmGroups groups a b c = some (RocBlas.checkGemmGroups groups a b c) := by
  rw [checkGemmGroups, RocBlas.checkGemmGroups]
  cases h : checkGroups (groups.map (·.size)) [("a", a), ("b", b), ("c", c)] with
  | error fault => rfl
  | ok u =>
    have covered : (Grouped.gemm groups a b c).Covered := Grouped.check_eq_ok_iff.mp h
    obtain ⟨hsizes, htotal, -⟩ := covered
    simp only
    rw [words.checkShares_eq (fun g => words.gemmGroupExtents_eq) _
      (List.forall_mem_map.mp hsizes) (by simpa [Grouped.sizes] using htotal), List.drop_zero]

theorem checkTrsmGroups_eq (groups : List (TrsmGroup α)) (a b : List Slice) :
    words.checkTrsmGroups groups a b = some (RocBlas.checkTrsmGroups groups a b) := by
  rw [checkTrsmGroups, RocBlas.checkTrsmGroups]
  cases h : checkGroups (groups.map (·.size)) [("a", a), ("b", b)] with
  | error fault => rfl
  | ok u =>
    have covered : (Grouped.trsm groups a b).Covered := Grouped.check_eq_ok_iff.mp h
    obtain ⟨hsizes, htotal, -⟩ := covered
    simp only
    rw [words.checkShares_eq (fun g => words.trsmGroupExtents_eq) _
      (List.forall_mem_map.mp hsizes) (by simpa [Grouped.sizes] using htotal), List.drop_zero]

end Words

/-! ## No check overflows -/

theorem start_add_le {sizes : List Int} {total g : Nat} (h : groupTotal sizes = .ok total) :
    start (sizes.map Int.toNat) g + (sizes.map Int.toNat).getD g 0 ≤ total := by
  rw [groupTotal, addGroups_eq_ok_iff (by decide)] at h
  obtain ⟨hnonneg, -, htotal⟩ := h
  have hsum := sum_map_toNat hnonneg
  have hwhole := List.sum_take_add_sum_drop (sizes.map Int.toNat) (g + 1)
  rw [← start_succ, start]
  omega

/-- What the checks of the backend compute, they compute exactly on any machine with words of 64
bits, also on one that stops at overflow. The integers of a call may have any signs: once they fit
32 bits, the extents of its operands are those of the integers. In a grouped call whose sizes add
up, no group ends after the total, which fits a signed word. So every check has the same outcome on
the machine as on the integers. -/
theorem extents_never_overflow (words : Words) :
    (∀ p : Gemm α Slice, checkIntegers (gemmIntegers p) = .ok () →
      words.gemmExtents p = some (gemmExtents p)) ∧
    (∀ g : GemmGroup α, checkIntegers (gemmGroupIntegers g) = .ok () → ∀ entry,
      words.gemmGroupExtents g entry = (gemmGroupExtents g entry).map Words.exactly) ∧
    (∀ g : TrsmGroup α, checkIntegers (trsmGroupIntegers g) = .ok () → ∀ entry,
      words.trsmGroupExtents g entry = (trsmGroupExtents g entry).map Words.exactly) ∧
    (∀ sizes total, groupTotal sizes = .ok total → total ≤ maxInt64 ∧ ∀ g,
      start (sizes.map Int.toNat) g + (sizes.map Int.toNat).getD g 0 ≤ total) ∧
    (∀ p : Gemm α Slice, words.checkGemm p = some (checkGemm p)) ∧
    (∀ (groups : List (GemmGroup α)) (a b c : List Slice),
      words.checkGemmGroups groups a b c = some (checkGemmGroups groups a b c)) ∧
    ∀ (groups : List (TrsmGroup α)) (a b : List Slice),
      words.checkTrsmGroups groups a b = some (checkTrsmGroups groups a b) := by
  refine ⟨fun p => words.gemmExtents_eq, fun g => words.gemmGroupExtents_eq,
    fun g => words.trsmGroupExtents_eq, ?_, words.checkGemm_eq, words.checkGemmGroups_eq,
    words.checkTrsmGroups_eq⟩
  intro sizes total h
  refine ⟨?_, fun g => start_add_le h⟩
  rw [groupTotal, addGroups_eq_ok_iff (by decide)] at h
  obtain ⟨-, hfits, rfl⟩ := h
  rw [maxInt64] at hfits ⊢
  omega

def largest : Gemm (Element .double) Slice where
  transA := .none
  transB := .transpose
  m := 2147483647
  n := 2147483647
  k := 2147483647
  alpha := .zero .double
  a := ⟨⟨0⟩, 2147483647, 2147483647⟩
  b := ⟨⟨0⟩, 2147483647, 2147483647⟩
  beta := .zero .double
  c := ⟨⟨0⟩, 2147483647, 2147483647⟩
  batchSize := 2147483647

theorem extents_never_overflow_largest :
    let required : Int := 9223372036854775808 - (5 * 2147483648 - 3)
    ∀ words ∈ [Words.checked, Words.wrapping], words.gemmExtents largest =
      some [("a", 0, required), ("b", 0, required), ("c", 0, required)] := by
  intro required words _
  have hexact := (extents_never_overflow words).1 largest rfl
  rw [hexact]
  rfl

example : Words.wrapping.spread 4294967296 2147483649 1 = some (-9223372036854775807) := by
  decide

end Offload.Blas.RocBlas
