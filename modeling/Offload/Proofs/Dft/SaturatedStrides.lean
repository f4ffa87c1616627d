import Offload.Proofs.Dft.DenseLayout

/-!
# Strides beyond their range

The dense strides are refused as soon as one product on the way leaves its range. Held at the end of
their range instead, products of positive lengths never come back from it, so each stride is the
exact product held there once: `saturatedStrides_eq`. As products only grow towards the front, one
of them leaves the range just if the last one does. `default_strides_exact` says what the default
strides are, and when they are the dense ones.
-/

set_option autoImplicit false

namespace Offload.Dft

open Number

variable {lengths : List Int}

/-! ## Products held at the end of their range -/

theorem saturate_of_nonneg {n : Int} (h : 0 ≤ n) : saturate n = min n maxInt64 := by
  simp only [saturate, minInt64, maxInt64]
  omega

theorem saturate_min_mul {p n : Int} (hp : 0 < p) (hn : 0 < n) :
    saturate (min p maxInt64 * n) = min (p * n) maxInt64 := by
  have hmax : 0 < maxInt64 := by decide
  rw [saturate_of_nonneg (Int.mul_nonneg (by omega) (by omega))]
  by_cases hfits : p ≤ maxInt64
  · rw [Int.min_eq_left hfits]
  · have hheld : maxInt64 * 1 ≤ maxInt64 * n := Int.mul_le_mul_of_nonneg_left (by omega) (by omega)
    have hlarge : p * 1 ≤ p * n := Int.mul_le_mul_of_nonneg_left (by omega) (by omega)
    rw [Int.min_eq_right (by omega : maxInt64 ≤ p)]
    omega

theorem saturatedStrides_eq (hpos : ∀ n ∈ lengths, 0 < n) :
    saturatedStrides lengths =
      ((suffixProducts lengths).map (min · maxInt64), min lengths.prod maxInt64) := by
  induction lengths with
  | nil => rfl
  | cons n rest ih =>
    rw [List.forall_mem_cons] at hpos
    rw [saturatedStrides, ih hpos.2]
    dsimp only
    rw [saturate_min_mul (prod_pos hpos.2) hpos.1, suffixProducts, List.map_cons, List.prod_cons,
      Int.mul_comm n]

/-! ## Products within their range -/

/-- Where no product leaves its range, holding them there changes nothing. -/
theorem saturatedStrides_of_suffixStrides {strides : List Int} {next : Int}
    (h : suffixStrides lengths = some (strides, next)) :
    saturatedStrides lengths = (strides, next) := by
  induction lengths generalizing strides next with
  | nil => exact Option.some.inj h
  | cons n rest ih =>
    simp only [suffixStrides] at h
    cases hrest : suffixStrides rest with
    | none => simp [hrest] at h
    | some found =>
      obtain ⟨tail, stride⟩ := found
      simp only [hrest, Option.map_eq_some_iff, Prod.mk.injEq] at h
      obtain ⟨product, hproduct, rfl, rfl⟩ := h
      obtain ⟨hrange, rfl⟩ := checkedMul_eq_some_iff.mp hproduct
      rw [saturatedStrides, ih hrest]
      dsimp only
      rw [saturate_of_inInt64 hrange]

theorem denseStrides_eq_saturated (h : (denseStrides lengths).isSome = true) :
    denseStrides lengths = some (0 :: (saturatedStrides lengths).1) := by
  cases lengths with
  | nil => rfl
  | cons n rest =>
    simp only [denseStrides, Option.isSome_map] at h
    obtain ⟨⟨strides, stride⟩, hfound⟩ := Option.isSome_iff_exists.mp h
    rw [denseStrides, hfound, saturatedStrides, saturatedStrides_of_suffixStrides hfound]
    rfl

theorem prod_le_prod_cons {n : Int} (hn : 0 < n) (hpos : ∀ m ∈ lengths, 0 < m) :
    lengths.prod ≤ (n :: lengths).prod := by
  have hgrows : 1 * lengths.prod ≤ n * lengths.prod :=
    Int.mul_le_mul_of_nonneg_right (by omega) (Int.le_of_lt (prod_pos hpos))
  rw [List.prod_cons]
  omega

theorem suffixStrides_isSome (hpos : ∀ n ∈ lengths, 0 < n) (hfits : lengths.prod ≤ maxInt64) :
    (suffixStrides lengths).isSome = true := by
  induction lengths with
  | nil => rfl
  | cons n rest ih =>
    have hproduct := prod_pos hpos
    rw [List.forall_mem_cons] at hpos
    have hrest := prod_le_prod_cons hpos.1 hpos.2
    obtain ⟨⟨strides, stride⟩, hfound⟩ := Option.isSome_iff_exists.mp (ih hpos.2 (by omega))
    obtain ⟨rfl, -⟩ := next_of_suffixStrides hfound
    rw [List.prod_cons, Int.mul_comm n] at hproduct hfits
    have hchecked : checkedMul rest.prod n = some (rest.prod * n) := by
      rw [maxInt64] at hfits
      exact checkedMul_eq_some_iff.mpr ⟨⟨by omega, by omega⟩, rfl⟩
    rw [suffixStrides, hfound]
    dsimp only
    rw [hchecked]
    rfl

theorem denseStrides_isSome_iff (hpos : ∀ n ∈ lengths, 0 < n) :
    (denseStrides lengths).isSome = true ↔ InInt64 lengths.tail.prod := by
  constructor
  · exact inInt64_prod_tail
  · intro h
    cases lengths with
    | nil => rfl
    | cons n rest =>
      have hfits : rest.prod < maxInt64 + 1 := h.2
      rw [List.forall_mem_cons] at hpos
      rw [denseStrides, Option.isSome_map]
      exact suffixStrides_isSome hpos.2 (by omega)

/-! ## The default strides -/

theorem getElem?_suffixProducts {i : Nat} (hi : i < lengths.length) :
    (suffixProducts lengths)[i]? = some (lengths.drop (i + 1)).prod := by
  induction lengths generalizing i with
  | nil => simp at hi
  | cons n rest ih =>
    cases i with
    | zero => simp [suffixProducts]
    | succ i =>
      rw [List.length_cons, Nat.add_lt_add_iff_right] at hi
      rw [suffixProducts, List.getElem?_cons_succ, ih hi, List.drop_succ_cons]

theorem defaultStrides_eq_saturated (lengths : List Int) :
    defaultStrides lengths = 0 :: (saturatedStrides lengths).1 := by
  unfold defaultStrides
  cases hdense : denseStrides lengths with
  | none => rfl
  | some strides =>
    have hsaturated := denseStrides_eq_saturated (Option.isSome_of_mem hdense)
    rw [hdense, Option.some.injEq] at hsaturated
    rw [hsaturated, Option.getD_some]

/-- The default strides of positive lengths are a zero offset and for each dimension the product of
the lengths after it, or the largest integer in range if that is less. They are the dense strides
just if the product of all lengths but the first is in range, and then nothing is held. Lengths are
accepted in that case, and only if they are positive. -/
theorem default_strides_exact :
    (∀ lengths : List Int, (∀ n ∈ lengths, 0 < n) →
      (defaultStrides lengths).length = lengths.length + 1 ∧
      (defaultStrides lengths).head? = some 0 ∧
      (∀ i < lengths.length, (defaultStrides lengths)[i + 1]? =
        some (min (lengths.drop (i + 1)).prod maxInt64)) ∧
      ((denseStrides lengths).isSome = true ↔ InInt64 lengths.tail.prod) ∧
      (InInt64 lengths.tail.prod →
        denseStrides lengths = some (0 :: (saturatedStrides lengths).1))) ∧
    ∀ lengths : List Int, checkLengths lengths = .ok () ↔
      (∀ n ∈ lengths, 0 < n) ∧ InInt64 lengths.tail.prod := by
  constructor
  · intro lengths hpos
    refine ⟨length_defaultStrides lengths, ?_, ?_, denseStrides_isSome_iff hpos, ?_⟩
    · rw [defaultStrides_eq_saturated, List.head?_cons]
    · intro i hi
      rw [defaultStrides_eq_saturated, saturatedStrides_eq hpos, List.getElem?_cons_succ,
        List.getElem?_map, getElem?_suffixProducts hi, Option.map_some]
    · intro h
      exact denseStrides_eq_saturated ((denseStrides_isSome_iff hpos).mpr h)
  · intro lengths
    rw [checkLengths_eq_ok_iff]
    exact and_congr_right fun hpos => denseStrides_isSome_iff hpos

theorem default_strides_exact_held :
    let lengths : List Int := [7, 3, 4611686018427387904, 2]
    (∀ n ∈ lengths, 0 < n) ∧ denseStrides lengths = none ∧
      (defaultStrides lengths)[1]? = some maxInt64 ∧ (defaultStrides lengths)[2]? = some maxInt64 ∧
      (defaultStrides lengths)[3]? = some 2 := by
  intro lengths
  have hpos : ∀ n ∈ lengths, 0 < n := by decide
  obtain ⟨-, -, hstride, hdense, -⟩ := default_strides_exact.1 lengths hpos
  have hnone : ¬(denseStrides lengths).isSome = true := by
    rw [hdense]
    decide
  exact ⟨hpos, Option.not_isSome_iff_eq_none.mp hnone, hstride 0 (by decide), hstride 1 (by decide),
    hstride 2 (by decide)⟩

end Offload.Dft
