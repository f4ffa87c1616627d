import Mathlib.Data.Int.ConditionallyCompleteOrder
import Mathlib.Data.List.Lex
import Mathlib.Data.Set.Function
import Mathlib.Order.Interval.Set.Defs
import Offload.Proofs.Dft.ExactExtent
import Offload.Proofs.Dft.Representation

/-!
# The default layout is dense

By default a dimension strides over all elements of the dimensions after it, so the strides are the
products of the lengths that follow. Then multi-indices in lexicographic order have the numbers from
zero on as their addresses, and none is left out: `default_layout_dense`. A single transform takes
as much memory as its lengths multiply to.
-/

set_option autoImplicit false

namespace Offload.Dft

open Number

/-! ## Strides as products -/

/-- For each dimension the product of the lengths after it. -/
def suffixProducts : List Int → List Int
  | [] => []
  | _ :: rest => rest.prod :: suffixProducts rest

theorem length_suffixProducts (lengths : List Int) :
    (suffixProducts lengths).length = lengths.length := by
  induction lengths with
  | nil => rfl
  | cons n rest ih => rw [suffixProducts, List.length_cons, List.length_cons, ih]

theorem suffixProducts_of_suffixStrides {lengths strides : List Int} {next : Int}
    (h : suffixStrides lengths = some (strides, next)) : strides = suffixProducts lengths := by
  induction lengths generalizing strides next with
  | nil =>
    simp only [suffixStrides, Option.some.injEq, Prod.mk.injEq] at h
    exact h.1.symm
  | cons n rest ih =>
    simp only [suffixStrides] at h
    cases hr : suffixStrides rest with
    | none => simp [hr] at h
    | some found =>
      obtain ⟨tail, stride⟩ := found
      simp only [hr, Option.map_eq_some_iff, Prod.mk.injEq] at h
      obtain ⟨_, _, rfl, _⟩ := h
      rw [suffixProducts, ← ih hr, (next_of_suffixStrides hr).1]

/-- The default strides of accepted lengths are a zero offset and the products of the lengths after
each dimension. -/
theorem defaultStrides_eq {lengths : List Int} (hne : lengths ≠ [])
    (hdense : (denseStrides lengths).isSome = true) :
    defaultStrides lengths = 0 :: suffixProducts lengths := by
  have hdefault := denseStrides_eq_default hdense
  cases lengths with
  | nil => exact absurd rfl hne
  | cons n rest =>
    simp only [denseStrides, Option.map_eq_some_iff] at hdefault
    obtain ⟨⟨strides, stride⟩, hfound, hdefault⟩ := hdefault
    rw [← hdefault, suffixProducts, ← suffixProducts_of_suffixStrides hfound,
      (next_of_suffixStrides hfound).1]

/-! ## Addresses of multi-indices -/

theorem prod_pos {lengths : List Int} (hpos : ∀ n ∈ lengths, 0 < n) : 0 < lengths.prod := by
  induction lengths with
  | nil => decide
  | cons n rest ih =>
    rw [List.forall_mem_cons] at hpos
    rw [List.prod_cons]
    exact Int.mul_pos hpos.1 (ih hpos.2)

theorem dot_suffixProducts_mem {lengths index : List Int} (hbox : InBox lengths index) :
    dot index (suffixProducts lengths) ∈ Set.Ico 0 lengths.prod := by
  induction hbox with
  | nil => exact ⟨Int.le_refl 0, Int.one_pos⟩
  | @cons n i lengths index hi _ ih =>
    obtain ⟨hstart, hend⟩ := ih
    have hfirst : 0 ≤ i * lengths.prod := Int.mul_nonneg hi.1 (by omega)
    have hlast : (i + 1) * lengths.prod ≤ n * lengths.prod :=
      Int.mul_le_mul_of_nonneg_right (by omega) (by omega)
    rw [Int.add_mul, Int.one_mul] at hlast
    rw [suffixProducts, dot, List.prod_cons]
    constructor <;> omega

theorem dot_suffixProducts_lt {lengths index other : List Int} (hbox : InBox lengths index)
    (hother : InBox lengths other) (hlt : index < other) :
    dot index (suffixProducts lengths) < dot other (suffixProducts lengths) := by
  induction hbox generalizing other with
  | nil =>
    cases hother
    exact absurd hlt (lt_irrefl _)
  | @cons n i lengths index hi hbox ih =>
    cases hother with
    | @cons _ j _ other hj hother =>
      simp only [suffixProducts, dot]
      cases hlt with
      | cons hrest =>
        have hlater := ih hother hrest
        omega
      | rel hfirst =>
        -- One more of the first stride is more than all that the later dimensions add.
        obtain ⟨hfloor, hend⟩ := dot_suffixProducts_mem hbox
        obtain ⟨hstart, -⟩ := dot_suffixProducts_mem hother
        have hstride : (i + 1) * lengths.prod ≤ j * lengths.prod :=
          Int.mul_le_mul_of_nonneg_right (by omega) (by omega)
        rw [Int.add_mul, Int.one_mul] at hstride
        omega

theorem exists_dot_suffixProducts {lengths : List Int} (hpos : ∀ n ∈ lengths, 0 < n) {a : Int}
    (ha : a ∈ Set.Ico 0 lengths.prod) :
    ∃ index, InBox lengths index ∧ dot index (suffixProducts lengths) = a := by
  induction lengths generalizing a with
  | nil =>
    obtain ⟨hstart, hend⟩ := ha
    have hzero : a = 0 := by
      rw [List.prod_nil] at hend
      omega
    exact ⟨[], .nil, hzero.symm⟩
  | cons n rest ih =>
    rw [List.forall_mem_cons] at hpos
    obtain ⟨hstart, hend⟩ := ha
    have hprod := prod_pos hpos.2
    -- The first index counts the whole strides in the address, the others reach the rest.
    obtain ⟨index, hbox, hdot⟩ := ih hpos.2
      (a := a % rest.prod) ⟨Int.emod_nonneg a (by omega), Int.emod_lt_of_pos a hprod⟩
    have hfirst : 0 ≤ a / rest.prod := Int.ediv_nonneg hstart (by omega)
    have hlast : a / rest.prod < n := Int.ediv_lt_of_lt_mul hprod (by rwa [List.prod_cons] at hend)
    refine ⟨a / rest.prod :: index, .cons ⟨hfirst, hlast⟩ hbox, ?_⟩
    rw [suffixProducts, dot, hdot]
    exact Int.ediv_mul_add_emod a rest.prod

/-! ## The extent of a dense layout -/

theorem lowest_suffixProducts {lengths : List Int} (hpos : ∀ n ∈ lengths, 0 < n) :
    lowest (lengths.zip (suffixProducts lengths)) = 0 := by
  obtain ⟨index, hbox, hdot⟩ :=
    exists_dot_eq_lowest hpos (length_suffixProducts lengths).symm
  have hstart := (dot_suffixProducts_mem hbox).1
  have hnonpos := lowest_nonpos (lengths.zip (suffixProducts lengths))
  omega

theorem highest_suffixProducts {lengths : List Int} (hpos : ∀ n ∈ lengths, 0 < n) :
    highest (lengths.zip (suffixProducts lengths)) = lengths.prod - 1 := by
  have hlength := (length_suffixProducts lengths).symm
  obtain ⟨index, hbox, hdot⟩ := exists_dot_eq_highest hpos hlength
  have hend := (dot_suffixProducts_mem hbox).2
  -- The last address belongs to some multi-index, and none is beyond the greatest.
  have hprod := prod_pos hpos
  obtain ⟨final, hfinal, hlast⟩ := exists_dot_suffixProducts hpos (a := lengths.prod - 1)
    ⟨by omega, by omega⟩
  have hbound := (dot_bounds hfinal hlength).2
  omega

/-- For every shape that a descriptor accepts, the default strides give multi-indices in
lexicographic order ascending addresses, and each number below the product of the lengths is the
address of one multi-index. A single transform with these strides has that product as its forward
extent, and is refused as too large if no memory has so many elements. -/
theorem default_layout_dense {π : Type} {precision : Precision} {domain : Domain}
    {lengths : List Int} {d : Descriptor π}
    (made : Descriptor.new precision domain lengths = .ok d) :
    (∀ side, d.settings.strides side = defaultStrides lengths) ∧
    (∀ index, InBox lengths index → ∀ side,
      d.settings.address side index 0 = dot index (defaultStrides lengths).tail) ∧
    StrictMonoOn (fun index => dot index (defaultStrides lengths).tail)
      {index | InBox lengths index} ∧
    Set.BijOn (fun index => dot index (defaultStrides lengths).tail)
      {index | InBox lengths index} (Set.Ico 0 lengths.prod) ∧
    ∀ t : Settings, t.lengths = lengths → t.inputStrides = defaultStrides lengths →
      t.transforms = 1 →
      (InWord64 lengths.prod → t.extent .forward = .ok lengths.prod.toNat) ∧
      (¬InWord64 lengths.prod → t.extent .forward = .error (.tooLarge .inputStrides) ∧
        ∀ direction, (ComputeFault.extent (.tooLarge .inputStrides)).toError direction =
          .invalidArgument "dft" direction.task
            "INPUT_STRIDES address more elements than fit in memory") := by
  obtain ⟨hne, hcheck, rfl⟩ := Descriptor.new_eq_ok_iff.1 made
  obtain ⟨hpos, hdense⟩ := checkLengths_eq_ok_iff.1 hcheck
  have hdefault := defaultStrides_eq hne hdense
  have hstrides : ∀ side, (Settings.initial precision domain lengths).strides side =
      defaultStrides lengths := fun side => by cases side <;> rfl
  have hmono : StrictMonoOn (fun index => dot index (suffixProducts lengths))
      {index | InBox lengths index} :=
    fun _ hbox _ hother hlt => dot_suffixProducts_lt hbox hother hlt
  refine ⟨hstrides, ?_, ?_, ?_, ?_⟩
  · intro index _ side
    rw [Settings.address, hstrides, hdefault, List.headD_cons, Int.zero_mul, Int.zero_add,
      Int.add_zero]
  · rw [hdefault]
    exact hmono
  · rw [hdefault]
    exact ⟨fun _ hbox => dot_suffixProducts_mem hbox, hmono.injOn,
      fun _ ha => exists_dot_suffixProducts hpos ha⟩
  · rintro t rfl hinput hone
    have hdims : t.dims .forward = t.lengths.zip (suffixProducts t.lengths) := by
      rw [Settings.dims, Settings.strides, hinput, hdefault]
      rfl
    have hoffset : (t.strides .forward).headD 0 = 0 := by
      rw [Settings.strides, hinput, hdefault, List.headD_cons]
    have hbatch : (t.transforms - 1) * t.distance .forward = 0 := by
      rw [hone, Int.sub_self, Int.zero_mul]
    have hleast : 0 ≤ t.leastAddress .forward := by
      rw [Settings.leastAddress, hoffset, hdims, lowest_suffixProducts hpos, Int.zero_add]
    have hend : t.greatestAddress .forward + 1 = t.lengths.prod := by
      rw [Settings.greatestAddress, hoffset, hdims, highest_suffixProducts hpos, hbatch]
      omega
    constructor
    · intro hword
      rw [← hend] at hword ⊢
      exact Settings.extent_of_fits (Int.le_of_eq hbatch.symm) hleast hword
    · intro hword
      refine ⟨?_, fun _ => rfl⟩
      cases hextent : t.extent .forward with
      | error fault =>
        rw [Settings.eq_tooLarge_of_extent hextent hleast]
        rfl
      | ok e =>
        obtain ⟨-, hfits, -⟩ := (Settings.extent_eq_ok_iff (Int.le_of_eq hbatch.symm)).1 hextent
        rw [hend] at hfits
        exact absurd hfits hword

theorem default_layout_dense_three :
    let d : Descriptor Unit := ⟨Settings.initial .double .complex [124, 5, 3], none⟩
    Descriptor.new .double .complex [124, 5, 3] = .ok d ∧
      d.settings.extent .forward = .ok 1860 ∧
      Set.BijOn (fun index => dot index [15, 3, 1]) {index | InBox [124, 5, 3] index}
        (Set.Ico 0 1860) := by
  intro d
  have made : Descriptor.new .double .complex [124, 5, 3] = .ok d := rfl
  obtain ⟨-, -, -, hbij, hextent⟩ := default_layout_dense made
  exact ⟨made, (hextent d.settings rfl rfl rfl).1 (by decide), hbij⟩

end Offload.Dft
