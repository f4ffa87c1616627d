import Offload.Proofs.Blas.GroupShares

/-!
# The total of the groups

The sizes of groups are added up from the left, so the sum is exact or ends at the first group whose
size is negative or takes it out of its range: `group_total_exact`.
-/

set_option autoImplicit false

namespace Offload.Blas

open Number

variable {sizes : List Int} {fault : Fault}

/-- Group number `i` is the first whose size is negative or takes the sum out of its range. -/
structure FirstFault (sizes : List Int) (i : Nat) (size : Int) : Prop where
  place : sizes[i]? = some size
  wrong : size < 0 ∨ ¬InInt64 (sizes.take (i + 1)).sum
  first : ∀ j < i, ∀ n, sizes[j]? = some n → 0 ≤ n ∧ InInt64 (sizes.take (j + 1)).sum

def firstFault (i : Nat) (size : Int) : Fault :=
  if size < 0 then .negativeGroup i size else .groupTotalOverflow

theorem groupTotal_eq_ok_iff {t : Nat} :
    groupTotal sizes = .ok t ↔
      (∀ n ∈ sizes, 0 ≤ n) ∧ sizes.sum ≤ maxInt64 ∧ (t : Int) = sizes.sum := by
  rw [groupTotal, addGroups_eq_ok_iff (by decide), Int.zero_add]
  constructor
  · rintro ⟨hnonneg, hfits, rfl⟩
    have hpositive := List.sum_nonneg hnonneg
    exact ⟨hnonneg, hfits, by omega⟩
  · rintro ⟨hnonneg, hfits, ht⟩
    exact ⟨hnonneg, hfits, by omega⟩

theorem take_append_length_add_one (before after : List Int) (size : Int) :
    (before ++ size :: after).take (before.length + 1) = before ++ [size] := by
  rw [List.take_length_add_append, List.take_succ_cons, List.take_zero]

theorem sum_take_mem {before : List Int} (hnonneg : ∀ n ∈ before, 0 ≤ n) (k : Nat) :
    0 ≤ (before.take k).sum ∧ (before.take k).sum ≤ before.sum := by
  have hsplit : (before.take k).sum + (before.drop k).sum = before.sum := by
    rw [← List.sum_append, List.take_append_drop]
  have htake : 0 ≤ (before.take k).sum :=
    List.sum_nonneg fun n hn => hnonneg n (List.mem_of_mem_take hn)
  have hdrop : 0 ≤ (before.drop k).sum :=
    List.sum_nonneg fun n hn => hnonneg n (List.mem_of_mem_drop hn)
  omega

theorem firstFault_of_append {before after : List Int} {size : Int}
    (hnonneg : ∀ n ∈ before, 0 ≤ n) (hfits : before.sum ≤ maxInt64)
    (hwrong : size < 0 ∨ maxInt64 < before.sum + size) :
    FirstFault (before ++ size :: after) before.length size := by
  constructor
  · simp
  · rw [take_append_length_add_one, List.sum_append, List.sum_singleton]
    refine hwrong.imp_right fun hover hrange => ?_
    have hend : before.sum + size < maxInt64 + 1 := hrange.2
    omega
  · intro j hj n hn
    rw [List.getElem?_append_left hj] at hn
    obtain ⟨hstart, hend⟩ := sum_take_mem hnonneg (j + 1)
    rw [List.take_append_of_le_length (by omega)]
    rw [maxInt64] at hfits
    exact ⟨hnonneg n (List.mem_of_getElem? hn), by omega, by omega⟩

theorem FirstFault.split {i : Nat} {size : Int} (h : FirstFault sizes i size) :
    ∃ before after, sizes = before ++ size :: after ∧ before.length = i ∧
      (∀ n ∈ before, 0 ≤ n) ∧ before.sum ≤ maxInt64 := by
  obtain ⟨hi, hsize⟩ := List.getElem?_eq_some_iff.mp h.place
  refine ⟨sizes.take i, sizes.drop (i + 1), ?_, ?_, ?_, ?_⟩
  · rw [← hsize, ← List.drop_eq_getElem_cons hi, List.take_append_drop]
  · rw [List.length_take]
    omega
  · intro n hn
    obtain ⟨j, hj, hn⟩ := List.mem_take_iff_getElem.mp hn
    exact (h.first j (by omega) n (List.getElem?_eq_some_iff.mpr ⟨by omega, hn⟩)).1
  · cases i with
    | zero =>
      rw [List.take_zero]
      decide
    | succ j =>
      have hrange := (h.first j (by omega) _ (List.getElem?_eq_getElem (by omega))).2
      have hend : (sizes.take (j + 1)).sum < maxInt64 + 1 := hrange.2
      omega

theorem groupTotal_eq_error_iff :
    groupTotal sizes = .error fault ↔
      ∃ i size, FirstFault sizes i size ∧ fault = firstFault i size := by
  constructor
  · intro h
    obtain ⟨before, size, after, rfl, hnonneg, hfits, hcause⟩ :=
      RocBlas.exists_of_addGroups (by decide) h
    rw [Int.zero_add] at hfits
    simp only [Nat.zero_add, Int.zero_add] at hcause
    rcases hcause with ⟨hnegative, rfl⟩ | ⟨hsize, hover, rfl⟩
    · exact ⟨_, size, firstFault_of_append hnonneg hfits (.inl hnegative),
        (if_pos hnegative).symm⟩
    · exact ⟨_, size, firstFault_of_append hnonneg hfits (.inr hover), (if_neg (by omega)).symm⟩
  · rintro ⟨i, size, h, rfl⟩
    obtain ⟨before, after, rfl, rfl, hnonneg, hfits⟩ := h.split
    have hwrong := h.wrong
    rw [take_append_length_add_one, List.sum_append, List.sum_singleton] at hwrong
    rw [groupTotal, RocBlas.addGroups_append hnonneg (by omega), addGroups, firstFault]
    by_cases hnegative : size < 0
    · rw [if_pos hnegative, if_pos hnegative, Nat.zero_add]
    · have hpositive := List.sum_nonneg hnonneg
      have hover : maxInt64 < 0 + before.sum + size := by
        have hrange := hwrong.resolve_left hnegative
        unfold InInt64 at hrange
        rw [maxInt64]
        omega
      rw [if_neg hnegative, if_neg hnegative, if_neg (by omega)]

example : groupTotal [maxInt64, 1, -2] = .error .groupTotalOverflow := rfl

/-- The total of groups is the sum of their sizes if none is negative and the sum is in range, and
otherwise the fault of the first group whose size is negative or takes the sum out of range. No sum
before a negative size that is reported was out of range. -/
theorem group_total_exact (sizes : List Int) :
    (∀ t : Nat, groupTotal sizes = .ok t ↔
      (∀ n ∈ sizes, 0 ≤ n) ∧ sizes.sum ≤ maxInt64 ∧ (t : Int) = sizes.sum) ∧
    (∀ fault, groupTotal sizes = .error fault ↔
      ∃ i size, FirstFault sizes i size ∧ fault = firstFault i size) ∧
    (∀ i size, groupTotal sizes = .error (.negativeGroup i size) →
      sizes[i]? = some size ∧ ∀ j ≤ i, (sizes.take j).sum ≤ maxInt64) ∧
    ∀ routine i size,
      (Fault.negativeGroup i size).toError routine =
        .invalidArgument "blas" routine s!"group {i} has negative size {size}" ∧
      Fault.groupTotalOverflow.toError routine =
        .invalidArgument "blas" routine "total group size overflows i64" := by
  refine ⟨fun t => groupTotal_eq_ok_iff, fun fault => groupTotal_eq_error_iff, ?_,
    fun routine i size => ⟨rfl, rfl⟩⟩
  intro i size h
  obtain ⟨k, found, hfirst, hfault⟩ := groupTotal_eq_error_iff.mp h
  unfold firstFault at hfault
  split at hfault
  · cases hfault
    refine ⟨hfirst.place, fun j hj => ?_⟩
    obtain ⟨before, after, rfl, rfl, hnonneg, hfits⟩ := hfirst.split
    rw [List.take_append_of_le_length hj]
    exact Int.le_trans (sum_take_mem hnonneg j).2 hfits
  · cases hfault

theorem group_total_exact_negative :
    let sizes := [3, -2, maxInt64]
    groupTotal sizes = .error (.negativeGroup 1 (-2)) ∧ sizes[1]? = some (-2) ∧
      ∀ j ≤ 1, (sizes.take j).sum ≤ maxInt64 := by
  intro sizes
  have hfirst : FirstFault sizes 1 (-2) := by
    constructor
    · rfl
    · decide
    · decide
  obtain ⟨-, herror, hnegative, -⟩ := group_total_exact sizes
  have hfault := (herror _).mpr ⟨1, -2, hfirst, rfl⟩
  exact ⟨hfault, hnegative 1 (-2) hfault⟩

end Offload.Blas
