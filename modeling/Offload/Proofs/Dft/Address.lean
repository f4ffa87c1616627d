import Mathlib.Data.List.Forall2
import Mathlib.Order.Bounds.Defs
import Offload.Proofs.Dft.WellFormed

/-!
# The addresses that a transform touches

A domain has an element for every multi-index in its shape and every transform; its address is the
offset, plus the strides times the indices, plus the distance times the number of the transform.
Strides may have either sign. The least and the greatest address are found dimension by dimension,
and the extent of a domain, where there is one, ends right after the greatest.
-/

set_option autoImplicit false

namespace Offload.Dft

open Number

/-! ## Multi-indices -/

/-- There is an index for each dimension, and it is one of the dimension's. -/
def InBox (shape index : List Int) : Prop := List.Forall₂ (fun n i => 0 ≤ i ∧ i < n) shape index

/-- The sum of each index times its stride. -/
def dot : List Int → List Int → Int
  | i :: index, stride :: strides => i * stride + dot index strides
  | _, _ => 0

theorem dot_append {index strides : List Int} (h : index.length = strides.length)
    (i stride : Int) : dot (index ++ [i]) (strides ++ [stride]) = dot index strides + i * stride := by
  induction index generalizing strides with
  | nil =>
    cases strides with
    | nil => simp [dot]
    | cons => cases h
  | cons j index ih =>
    cases strides with
    | nil => cases h
    | cons other strides =>
      simp only [List.cons_append, dot]
      rw [ih (Nat.succ.inj h), Int.add_assoc]

theorem dot_reverse {index strides : List Int} (h : index.length = strides.length) :
    dot index.reverse strides.reverse = dot index strides := by
  induction index generalizing strides with
  | nil =>
    cases strides with
    | nil => rfl
    | cons => cases h
  | cons i index ih =>
    cases strides with
    | nil => cases h
    | cons stride strides =>
      have hlength := Nat.succ.inj h
      rw [List.reverse_cons, List.reverse_cons, dot_append (by simpa using hlength), ih hlength, dot,
        Int.add_comm]

theorem inBox_reverse {shape index : List Int} :
    InBox shape.reverse index.reverse ↔ InBox shape index :=
  List.forall₂_reverse_iff

def total (reach : Int × Int → Int) : List (Int × Int) → Int
  | [] => 0
  | d :: rest => reach d + total reach rest

def lowest : List (Int × Int) → Int := total fun d => min 0 ((d.1 - 1) * d.2)

def highest : List (Int × Int) → Int := total fun d => max 0 ((d.1 - 1) * d.2)

theorem lowest_cons (d : Int × Int) (dims : List (Int × Int)) :
    lowest (d :: dims) = min 0 ((d.1 - 1) * d.2) + lowest dims := rfl

theorem highest_cons (d : Int × Int) (dims : List (Int × Int)) :
    highest (d :: dims) = max 0 ((d.1 - 1) * d.2) + highest dims := rfl

/-- One index reaches no further than the last one or the first one. -/
theorem mul_stride_bounds {i n : Int} (stride : Int) (hi : 0 ≤ i) (hn : i < n) :
    min 0 ((n - 1) * stride) ≤ i * stride ∧ i * stride ≤ max 0 ((n - 1) * stride) := by
  have hlast : i ≤ n - 1 := by omega
  rcases Int.le_total 0 stride with hs | hs
  · have hfirst : 0 ≤ i * stride := Int.mul_nonneg hi hs
    have hend : i * stride ≤ (n - 1) * stride := Int.mul_le_mul_of_nonneg_right hlast hs
    omega
  · have hfirst : i * stride ≤ 0 := Int.mul_nonpos_of_nonneg_of_nonpos hi hs
    have hend : (n - 1) * stride ≤ i * stride := Int.mul_le_mul_of_nonpos_right hlast hs
    omega

theorem dot_bounds {shape index : List Int} (h : InBox shape index) {strides : List Int}
    (hlength : shape.length = strides.length) :
    lowest (shape.zip strides) ≤ dot index strides ∧
      dot index strides ≤ highest (shape.zip strides) := by
  induction h generalizing strides with
  | nil => simp [lowest, highest, total, dot]
  | @cons n i shape index hi _ ih =>
    cases strides with
    | nil => cases hlength
    | cons stride strides =>
      obtain ⟨hlow, hhigh⟩ := ih (Nat.succ.inj hlength)
      have hstep := mul_stride_bounds stride hi.1 hi.2
      rw [List.zip_cons_cons, lowest_cons, highest_cons, dot]
      dsimp only
      omega

theorem exists_dot_eq_total {reach : Int × Int → Int}
    (hreach : ∀ d, reach d = 0 ∨ reach d = (d.1 - 1) * d.2) {shape strides : List Int}
    (hpos : ∀ n ∈ shape, 0 < n) (hlength : shape.length = strides.length) :
    ∃ index, InBox shape index ∧ dot index strides = total reach (shape.zip strides) := by
  -- Every dimension has a first and a last index, since no length is zero.
  induction shape generalizing strides with
  | nil => exact ⟨[], .nil, rfl⟩
  | cons n shape ih =>
    cases strides with
    | nil => cases hlength
    | cons stride strides =>
      rw [List.forall_mem_cons] at hpos
      obtain ⟨index, hbox, hdot⟩ := ih hpos.2 (Nat.succ.inj hlength)
      rw [List.zip_cons_cons, total]
      rcases hreach (n, stride) with hfirst | hlast
      · exact ⟨0 :: index, .cons ⟨by omega, hpos.1⟩ hbox, by rw [dot, hdot, hfirst, Int.zero_mul]⟩
      · exact ⟨(n - 1) :: index, .cons ⟨by omega, by omega⟩ hbox, by rw [dot, hdot, hlast]⟩

theorem exists_dot_eq_lowest {shape strides : List Int} (hpos : ∀ n ∈ shape, 0 < n)
    (hlength : shape.length = strides.length) :
    ∃ index, InBox shape index ∧ dot index strides = lowest (shape.zip strides) :=
  exists_dot_eq_total (fun d => by omega) hpos hlength

theorem exists_dot_eq_highest {shape strides : List Int} (hpos : ∀ n ∈ shape, 0 < n)
    (hlength : shape.length = strides.length) :
    ∃ index, InBox shape index ∧ dot index strides = highest (shape.zip strides) :=
  exists_dot_eq_total (fun d => by omega) hpos hlength

/-! ## The reach that is computed -/

theorem eq_of_checked128 {n m : Int} (h : checked128 n = some m) : m = n := by
  unfold checked128 at h
  split at h
  · exact (Option.some.inj h).symm
  · cases h

theorem extendReach_eq_some {bounds found : Int × Int} {n stride : Int}
    (h : extendReach bounds n stride = some found) :
    found = (bounds.1 + min 0 ((n - 1) * stride), bounds.2 + max 0 ((n - 1) * stride)) := by
  unfold extendReach at h
  cases hr : checked128 ((n - 1) * stride) with
  | none => simp [hr] at h
  | some reach =>
    have hreach := eq_of_checked128 hr
    simp only [hr] at h
    split at h
    · obtain ⟨low, hlow, rfl⟩ := Option.map_eq_some_iff.1 h
      rw [eq_of_checked128 hlow, ← hreach, Int.min_eq_right (by omega), Int.max_eq_left (by omega),
        Int.add_zero]
    · obtain ⟨high, hhigh, rfl⟩ := Option.map_eq_some_iff.1 h
      rw [eq_of_checked128 hhigh, ← hreach, Int.min_eq_left (by omega),
        Int.max_eq_right (by omega), Int.add_zero]

theorem extendAll_eq_some {dims : List (Int × Int)} {bounds found : Int × Int}
    (h : extendAll bounds dims = some found) :
    found = (bounds.1 + lowest dims, bounds.2 + highest dims) := by
  induction dims generalizing bounds with
  | nil =>
    simp only [extendAll, Option.some.injEq] at h
    simp [← h, lowest, highest, total]
  | cons d rest ih =>
    obtain ⟨n, stride⟩ := d
    unfold extendAll at h
    cases hr : extendReach bounds n stride with
    | none => simp [hr] at h
    | some next =>
      simp only [hr] at h
      rw [ih h, extendReach_eq_some hr, lowest_cons, highest_cons, Int.add_assoc, Int.add_assoc]

/-! ## The addresses of a domain -/

namespace Settings

def address (s : Settings) (side : Direction) (index : List Int) (b : Int) : Int :=
  (s.strides side).headD 0 + dot index (s.strides side).tail + b * s.distance side

/-- The addresses of all elements of all transforms in a domain. -/
def touched (s : Settings) (side : Direction) : Set Int :=
  {a | ∃ index b, InBox (s.shape side) index ∧ 0 ≤ b ∧ b < s.transforms ∧
    s.address side index b = a}

def dims (s : Settings) (side : Direction) : List (Int × Int) :=
  (s.shape side).zip (s.strides side).tail

theorem shape_backward_real {s : Settings} (hdomain : s.domain = .real) {front : List Int}
    {n : Int} (h : s.lengths = front ++ [n]) : s.shape .backward = front ++ [halfLength n] := by
  simp [shape, hdomain, h]

theorem shape_of_ne {s : Settings} {side : Direction}
    (h : ¬(side = .backward ∧ s.domain = .real)) : s.shape side = s.lengths := by
  unfold shape
  split
  · rename_i hdomain
    exact absurd ⟨rfl, hdomain⟩ h
  · rfl

namespace WellFormed

variable {s : Settings}

theorem exists_last (hs : s.WellFormed) : ∃ front n, s.lengths = front ++ [n] :=
  ⟨_, _, (List.dropLast_append_getLast hs.lengths_ne_nil).symm⟩

theorem length_shape (hs : s.WellFormed) (side : Direction) :
    (s.shape side).length = s.dimension := by
  by_cases h : side = .backward ∧ s.domain = .real
  · obtain ⟨rfl, hdomain⟩ := h
    obtain ⟨front, n, hlengths⟩ := hs.exists_last
    rw [shape_backward_real hdomain hlengths, dimension, hlengths, List.length_append,
      List.length_append]
    rfl
  · rw [shape_of_ne h, dimension]

theorem shape_pos (hs : s.WellFormed) (side : Direction) : ∀ n ∈ s.shape side, 0 < n := by
  by_cases h : side = .backward ∧ s.domain = .real
  · obtain ⟨rfl, hdomain⟩ := h
    obtain ⟨front, n, hlengths⟩ := hs.exists_last
    have hpos := hs.lengths_pos
    rw [hlengths, List.forall_mem_append, List.forall_mem_singleton] at hpos
    rw [shape_backward_real hdomain hlengths, List.forall_mem_append, List.forall_mem_singleton,
      halfLength]
    refine ⟨hpos.1, ?_⟩
    have hn := hpos.2
    omega
  · rw [shape_of_ne h]
    exact hs.lengths_pos

theorem length_tail_strides (hs : s.WellFormed) (side : Direction) :
    (s.shape side).length = (s.strides side).tail.length := by
  rw [hs.length_shape, List.length_tail, hs.length_strides, Nat.add_sub_cancel]

theorem isLeast_touched (hs : s.WellFormed) (side : Direction) :
    IsLeast (s.touched side) ((s.strides side).headD 0 + lowest (s.dims side)) := by
  refine ⟨?_, ?_⟩
  · obtain ⟨index, hbox, hdot⟩ :=
      exists_dot_eq_lowest (hs.shape_pos side) (hs.length_tail_strides side)
    refine ⟨index, 0, hbox, Int.le_refl 0, hs.transforms_pos, ?_⟩
    rw [address, hdot, Int.zero_mul, Int.add_zero, dims]
  · rintro a ⟨index, b, hbox, hb, -, rfl⟩
    obtain ⟨hlow, -⟩ := dot_bounds hbox (hs.length_tail_strides side)
    have hbatch : 0 ≤ b * s.distance side :=
      Int.mul_nonneg hb (Int.le_of_lt (hs.distance_pos side))
    rw [address, dims]
    omega

theorem isGreatest_touched (hs : s.WellFormed) (side : Direction) :
    IsGreatest (s.touched side)
      ((s.strides side).headD 0 + highest (s.dims side) +
        (s.transforms - 1) * s.distance side) := by
  refine ⟨?_, ?_⟩
  · obtain ⟨index, hbox, hdot⟩ :=
      exists_dot_eq_highest (hs.shape_pos side) (hs.length_tail_strides side)
    have hpos := hs.transforms_pos
    refine ⟨index, s.transforms - 1, hbox, by omega, by omega, ?_⟩
    rw [address, hdot, dims]
  · rintro a ⟨index, b, hbox, -, hb, rfl⟩
    obtain ⟨-, hhigh⟩ := dot_bounds hbox (hs.length_tail_strides side)
    have hbatch : b * s.distance side ≤ (s.transforms - 1) * s.distance side :=
      Int.mul_le_mul_of_nonneg_right (by omega) (Int.le_of_lt (hs.distance_pos side))
    rw [address, dims]
    omega

end WellFormed

theorem extent_eq_ok {s : Settings} {side : Direction} {extent : Nat}
    (h : s.extent side = .ok extent) :
    0 ≤ (s.strides side).headD 0 + lowest (s.dims side) ∧
      (s.strides side).headD 0 + highest (s.dims side) +
        (s.transforms - 1) * s.distance side = extent - 1 := by
  unfold Settings.extent at h
  cases hr : s.reach side with
  | none => simp [hr] at h
  | some bounds =>
    obtain ⟨low, high⟩ := bounds
    have hbounds := extendAll_eq_some hr
    simp only [Prod.mk.injEq] at hbounds
    obtain ⟨rfl, rfl⟩ := hbounds
    simp only [hr] at h
    split at h
    · cases h
    · rename_i last hlast
      have hlast := eq_of_checked128 hlast
      split at h
      · cases h
      · split at h
        · rename_i hstart hword
          have hextent := Except.ok.inj h
          have hpos := hword.1
          rw [dims]
          omega
        · cases h

/-- Where a domain has an extent, no address lies before the data, and the greatest is the last one
before the end of the extent. -/
theorem WellFormed.isGreatest_of_extent {s : Settings} (hs : s.WellFormed) {side : Direction}
    {extent : Nat} (h : s.extent side = .ok extent) :
    (∀ a ∈ s.touched side, 0 ≤ a) ∧ IsGreatest (s.touched side) (extent - 1) := by
  obtain ⟨hlow, hhigh⟩ := extent_eq_ok h
  refine ⟨?_, hhigh ▸ hs.isGreatest_touched side⟩
  intro a ha
  exact Int.le_trans hlow ((hs.isLeast_touched side).2 ha)

end Settings

end Offload.Dft
