import Mathlib.Algebra.Order.Field.Basic
import Mathlib.Algebra.Order.Field.Power
import Mathlib.Algebra.Order.Field.Rat
import Mathlib.Tactic.FieldSimp
import Mathlib.Tactic.Linarith
import Mathlib.Tactic.NormNum
import Mathlib.Tactic.Positivity
import Mathlib.Tactic.Ring
import Offload.Number.Binary

/-!
# Which numbers overflow a format

A finite number leaves the finite ones of a narrower format just when it is at least half a unit in
the last place above the largest of them: at the middle the even neighbour is infinity.
`Binary.isFinite_convert_iff` says so of every pattern of every format, `Format.overflow` is the
number from which on it happens.
-/

set_option autoImplicit false

namespace Offload.Number

theorem pow2_eq (n : Nat) : pow2 n = 2 ^ n := rfl

/-! ## Rounding to integers -/

theorem roundDiv_near (num : Nat) {den : Nat} (hden : 0 < den) :
    2 * (roundDiv num den * den) ≤ 2 * num + den ∧ 2 * num ≤ 2 * (roundDiv num den * den) + den ∧
      (2 * (roundDiv num den * den) = 2 * num + den ∨
        2 * num = 2 * (roundDiv num den * den) + den → roundDiv num den % 2 = 0) := by
  have hsplit : num / den * den + num % den = num := by
    rw [Nat.mul_comm]
    exact Nat.div_add_mod num den
  have hrest : num % den < den := Nat.mod_lt num hden
  have hnext : (num / den + 1) * den = num / den * den + den := Nat.add_one_mul ..
  unfold roundDiv
  dsimp only
  split
  · omega
  · split
    · omega
    · rcases Nat.mod_two_eq_zero_or_one (num / den) with heven | hodd
      · rw [heven, Nat.add_zero]
        omega
      · rw [hodd]
        omega

theorem roundShift_near (m : Nat) (shift : Int) :
    |(roundShift m shift : ℚ) - m * 2 ^ shift| ≤ 1 / 2 ∧
      (|(roundShift m shift : ℚ) - m * 2 ^ shift| = 1 / 2 → roundShift m shift % 2 = 0) := by
  cases shift with
  | ofNat up =>
    have hvalue : (m : ℚ) * 2 ^ (Int.ofNat up) = ((m * pow2 up : Nat) : ℚ) := by
      rw [Int.ofNat_eq_natCast, zpow_natCast, pow2_eq]
      push_cast
      rfl
    rw [roundShift, hvalue, sub_self, abs_zero]
    norm_num
  | negSucc down =>
    have hden : 0 < pow2 (down + 1) := Nat.pow_pos (by decide)
    have hvalue : (m : ℚ) * 2 ^ (Int.negSucc down) = m / (pow2 (down + 1) : Nat) := by
      rw [zpow_negSucc, div_eq_mul_inv, pow2_eq]
      push_cast
      rfl
    obtain ⟨hupper, hlower, heven⟩ := roundDiv_near m hden
    rw [roundShift, hvalue]
    generalize roundDiv m (pow2 (down + 1)) = k at *
    generalize pow2 (down + 1) = den at *
    have hpos : (0 : ℚ) < den := by exact_mod_cast hden
    have hupper' : 2 * ((k : ℚ) * den) ≤ 2 * m + den := by exact_mod_cast hupper
    have hlower' : 2 * (m : ℚ) ≤ 2 * (k * den) + den := by exact_mod_cast hlower
    have hscaled : (k : ℚ) - m / den = (k * den - m) / den := by
      field_simp
    have hhalf : ∀ x : ℚ, x / den = 1 / 2 ↔ 2 * x = den := by
      intro x
      rw [div_eq_iff hpos.ne']
      constructor <;> intro h <;> linarith
    rw [hscaled, abs_div, abs_of_pos hpos, div_le_iff₀ hpos, abs_le, hhalf]
    refine ⟨⟨by linarith, by linarith⟩, fun htie => heven ?_⟩
    rcases abs_cases ((k : ℚ) * den - m) with ⟨habs, -⟩ | ⟨habs, -⟩
    · left
      have hcast : 2 * ((k : ℚ) * den) = 2 * m + den := by linarith
      exact_mod_cast hcast
    · right
      have hcast : 2 * (m : ℚ) = 2 * (k * den) + den := by linarith
      exact_mod_cast hcast

/-- An even number bounds a rounded value from below just when the value is at most half below
it. -/
theorem le_roundShift_iff {n : Nat} (heven : n % 2 = 0) (m : Nat) (shift : Int) :
    n ≤ roundShift m shift ↔ (n : ℚ) - 1 / 2 ≤ m * 2 ^ shift := by
  obtain ⟨hnear, htie⟩ := roundShift_near m shift
  generalize roundShift m shift = k at *
  generalize (m : ℚ) * 2 ^ shift = value at *
  obtain ⟨hlower, hupper⟩ := abs_le.1 hnear
  constructor
  · intro h
    have hcast : (n : ℚ) ≤ k := by exact_mod_cast h
    linarith
  · intro h
    by_contra hlt
    -- Then the value is half way between an odd number and `n`.
    have hcast : (k : ℚ) + 1 ≤ n := by exact_mod_cast (by omega : k + 1 ≤ n)
    have hk : k + 1 = n := by
      have : (k : ℚ) + 1 = n := by linarith
      exact_mod_cast this
    have hhalf : |(k : ℚ) - value| = 1 / 2 := by
      rw [abs_of_nonpos (by linarith)]
      linarith
    have hzero := htie hhalf
    omega

/-! ## Formats -/

namespace Format

/-- A format with at least four exponents and at least one bit of fraction. -/
structure Regular (f : Format) : Prop where
  exponent : 2 ≤ f.exponentBits
  fraction : 1 ≤ f.fractionBits

theorem regular_single : single.Regular := ⟨by decide, by decide⟩

theorem regular_double : double.Regular := ⟨by decide, by decide⟩

/-- The exponent of the last place of the largest numbers. -/
def topExponent (f : Format) : Int := f.leastExponent + f.topField - 2

/-- The least magnitude that is rounded to infinity. -/
def overflow (f : Format) : ℚ := (2 ^ (f.fractionBits + 1) - 1 / 2) * 2 ^ f.topExponent

theorem overflow_single : single.overflow = 2 ^ 128 - 2 ^ 103 := by
  have hexponent : single.topExponent = 104 := by decide
  rw [overflow, hexponent]
  norm_num [single]

theorem overflow_single_le_double : single.overflow ≤ double.overflow := by
  have hexponent : double.topExponent = 971 := by decide
  have hpow : (2 : ℚ) ^ (128 : Int) ≤ 2 ^ (971 : Int) :=
    zpow_le_zpow_right₀ (by norm_num) (by norm_num)
  calc
    single.overflow ≤ 2 ^ (128 : Int) := by
      rw [overflow_single]
      norm_num
    _ ≤ 1 * 2 ^ (971 : Int) := by rwa [one_mul]
    _ ≤ double.overflow := by
      rw [overflow, hexponent]
      apply mul_le_mul_of_nonneg_right _ (by positivity)
      norm_num [double]

theorem le_overflow (f : Format) : 2 ^ f.fractionBits * 2 ^ f.topExponent ≤ f.overflow := by
  have hunit : (1 : ℚ) ≤ 2 ^ f.fractionBits := one_le_pow₀ (by norm_num)
  rw [overflow, pow_succ]
  apply mul_le_mul_of_nonneg_right _ (by positivity)
  linarith

theorem overflow_le (f : Format) : f.overflow ≤ 2 ^ f.fractionBits * 2 ^ (f.topExponent + 1) := by
  have hnext : (2 : ℚ) ^ f.fractionBits * 2 ^ (f.topExponent + 1) =
      2 ^ (f.fractionBits + 1) * 2 ^ f.topExponent := by
    rw [zpow_add₀ (by norm_num), pow_succ, zpow_one]
    ring
  rw [overflow, hnext]
  apply mul_le_mul_of_nonneg_right _ (by positivity)
  linarith

theorem overflow_pos (f : Format) : 0 < f.overflow :=
  lt_of_lt_of_le (by positivity) f.le_overflow

theorem topField_add_one (f : Format) : f.topField + 1 = 2 ^ f.exponentBits :=
  Nat.sub_add_cancel (Nat.pow_pos (by decide))

theorem Regular.three_le_topField {f : Format} (hf : f.Regular) : 3 ≤ f.topField := by
  have hpow : 2 ^ 2 ≤ 2 ^ f.exponentBits := Nat.pow_le_pow_right (by decide) hf.exponent
  have htop := f.topField_add_one
  omega

theorem Regular.even_pow_fraction {f : Format} (hf : f.Regular) : 2 ^ f.fractionBits % 2 = 0 := by
  obtain ⟨rest, hrest⟩ := Nat.exists_eq_add_of_le hf.fraction
  rw [hrest, Nat.pow_add]
  omega

theorem Regular.infinity_pos {f : Format} (hf : f.Regular) : 0 < f.infinity := by
  have hthree := hf.three_le_topField
  exact Nat.mul_pos (by omega) (Nat.pow_pos (by decide))

theorem infinity_lt (f : Format) : f.infinity < 2 ^ (f.exponentBits + f.fractionBits) := by
  have htop : f.topField < 2 ^ f.exponentBits := by
    rw [← f.topField_add_one]
    exact Nat.lt_succ_self _
  rw [Nat.pow_add]
  exact Nat.mul_lt_mul_of_pos_right htop (Nat.pow_pos (by decide))

end Format

namespace Binary

variable {f g : Format}

/-! ## Patterns -/

theorem signBit_eq (f : Format) (negative : Bool) :
    signBit f negative = negative.toNat * 2 ^ (f.exponentBits + f.fractionBits) := by
  cases negative with
  | false => exact (Nat.zero_mul _).symm
  | true => exact (Nat.one_mul _).symm

section OfBits

/-! The fields of a pattern that is put together from a sign and the bits of a magnitude. -/

variable (negative : Bool) {bits : Nat}

theorem toBits_ofBits (h : bits < 2 ^ (f.exponentBits + f.fractionBits)) :
    (ofBits f (signBit f negative + bits)).toBits =
      negative.toNat * 2 ^ (f.exponentBits + f.fractionBits) + bits := by
  have hwidth : 2 ^ f.width = 2 * 2 ^ (f.exponentBits + f.fractionBits) := by
    rw [Format.width, Nat.add_assoc, Nat.pow_add]
  have hsign : negative.toNat * 2 ^ (f.exponentBits + f.fractionBits) ≤
      1 * 2 ^ (f.exponentBits + f.fractionBits) :=
    Nat.mul_le_mul_right _ (Bool.toNat_le negative)
  rw [toBits, ofBits, BitVec.toNat_ofNat, hwidth, signBit_eq]
  exact Nat.mod_eq_of_lt (by omega)

theorem isNegative_ofBits (h : bits < 2 ^ (f.exponentBits + f.fractionBits)) :
    (ofBits f (signBit f negative + bits)).isNegative = negative := by
  have hquotient : (negative.toNat * 2 ^ (f.exponentBits + f.fractionBits) + bits) /
      2 ^ (f.exponentBits + f.fractionBits) = negative.toNat := by
    rw [Nat.mul_comm, Nat.mul_add_div (Nat.pow_pos (by decide)), Nat.div_eq_of_lt h, Nat.add_zero]
  rw [isNegative, toBits_ofBits negative h, pow2_eq, hquotient]
  cases negative <;> rfl

theorem exponentField_ofBits (h : bits < 2 ^ (f.exponentBits + f.fractionBits)) :
    (ofBits f (signBit f negative + bits)).exponentField = bits / 2 ^ f.fractionBits := by
  have hquotient : bits / 2 ^ f.fractionBits < 2 ^ f.exponentBits := by
    rw [Nat.pow_add] at h
    exact Nat.div_lt_of_lt_mul (by rwa [Nat.mul_comm])
  have hproduct : negative.toNat * 2 ^ (f.exponentBits + f.fractionBits) =
      2 ^ f.fractionBits * (negative.toNat * 2 ^ f.exponentBits) := by
    rw [Nat.pow_add]
    ring
  rw [exponentField, toBits_ofBits negative h, hproduct, pow2_eq, pow2_eq,
    Nat.mul_add_div (Nat.pow_pos (by decide)), Nat.mul_comm negative.toNat, Nat.mul_add_mod,
    Nat.mod_eq_of_lt hquotient]

theorem fractionField_ofBits (h : bits < 2 ^ (f.exponentBits + f.fractionBits)) :
    (ofBits f (signBit f negative + bits)).fractionField = bits % 2 ^ f.fractionBits := by
  have hproduct : negative.toNat * 2 ^ (f.exponentBits + f.fractionBits) =
      2 ^ f.fractionBits * (negative.toNat * 2 ^ f.exponentBits) := by
    rw [Nat.pow_add]
    ring
  rw [fractionField, toBits_ofBits negative h, hproduct, pow2_eq, Nat.mul_add_mod]

end OfBits

theorem isFinite_ofBits_iff (negative : Bool) {bits : Nat} (h : bits ≤ f.infinity) :
    (ofBits f (signBit f negative + bits)).isFinite = true ↔ bits < f.infinity := by
  have hlt : bits < 2 ^ (f.exponentBits + f.fractionBits) := Nat.lt_of_le_of_lt h f.infinity_lt
  have hle : bits / 2 ^ f.fractionBits ≤ f.topField := Nat.div_le_of_le_mul (by
    rw [Nat.mul_comm]
    exact h)
  rw [isFinite, exponentField_ofBits negative hlt, bne_iff_ne, ne_eq]
  have hdiv : bits / 2 ^ f.fractionBits < f.topField ↔ bits < f.infinity :=
    Nat.div_lt_iff_lt_mul (Nat.pow_pos (by decide))
  rw [← hdiv]
  omega

def magnitude (x : Binary f) : ℚ :=
  match x.exact with
  | .finite _ m q => m * 2 ^ q
  | _ => 0

theorem exact_of_isFinite (hf : f.Regular) {x : Binary f} (h : x.isFinite = true) :
    ∃ m q, x.exact = .finite x.isNegative m q ∧ m < 2 ^ (f.fractionBits + 1) ∧
      f.leastExponent ≤ q ∧ q ≤ f.topExponent := by
  have hfield : x.exponentField ≠ f.topField := by simpa [isFinite] using h
  have hrange : x.exponentField < 2 ^ f.exponentBits := Nat.mod_lt _ (Nat.pow_pos (by decide))
  have hfraction : x.fractionField < 2 ^ f.fractionBits := Nat.mod_lt _ (Nat.pow_pos (by decide))
  have htop := f.topField_add_one
  have hthree := hf.three_le_topField
  have hpow : 2 ^ (f.fractionBits + 1) = 2 ^ f.fractionBits + 2 ^ f.fractionBits := by
    rw [Nat.pow_succ, Nat.mul_two]
  have hunit : pow2 f.fractionBits = 2 ^ f.fractionBits := rfl
  rw [exact, if_neg (by simpa using hfield)]
  split
  · exact ⟨_, _, rfl, by omega, by omega, by unfold Format.topExponent; omega⟩
  · exact ⟨_, _, rfl, by omega, by omega, by unfold Format.topExponent; omega⟩

theorem exact_of_not_isFinite {x : Binary f} (h : x.isFinite = false) :
    x.exact = .notANumber ∨ ∃ negative, x.exact = .infinite negative := by
  have hfield : x.exponentField = f.topField := by simpa [isFinite] using h
  rw [exact, if_pos (by simpa using hfield)]
  split
  · exact .inr ⟨_, rfl⟩
  · exact .inl rfl

theorem magnitude_lt_overflow (hf : f.Regular) {x : Binary f} (h : x.isFinite = true) :
    x.magnitude < f.overflow := by
  obtain ⟨m, q, hexact, hm, -, hq⟩ := exact_of_isFinite hf h
  have hcast : (m : ℚ) + 1 ≤ 2 ^ (f.fractionBits + 1) := by exact_mod_cast hm
  have hplace : (2 : ℚ) ^ q ≤ 2 ^ f.topExponent := zpow_le_zpow_right₀ (by norm_num) hq
  have hpos : (0 : ℚ) < 2 ^ f.topExponent := by positivity
  rw [magnitude, hexact, Format.overflow]
  calc
    (m : ℚ) * 2 ^ q ≤ m * 2 ^ f.topExponent := mul_le_mul_of_nonneg_left hplace m.cast_nonneg
    _ < (2 ^ (f.fractionBits + 1) - 1 / 2) * 2 ^ f.topExponent := by
      apply mul_lt_mul_of_pos_right _ hpos
      linarith

/-! ## Rounding to a format -/

theorem significand_bounds {m : Nat} (hm : m ≠ 0) (q : Int) :
    let place := max (m.log2 + q - f.fractionBits) f.leastExponent
    (m : ℚ) * 2 ^ (q - place) < 2 ^ (f.fractionBits + 1) ∧
      (f.leastExponent < place → (2 : ℚ) ^ f.fractionBits ≤ m * 2 ^ (q - place)) := by
  intro place
  have hscale : ∀ e : Int, (2 : ℚ) ^ e * 2 ^ (q - place) = 2 ^ (e + (q - place)) := by
    intro e
    rw [zpow_add₀ (by norm_num)]
  have hpos : (0 : ℚ) < 2 ^ (q - place) := by positivity
  constructor
  · have hupper : (m : ℚ) < 2 ^ ((m.log2 : Int) + 1) := by
      exact_mod_cast Nat.lt_log2_self (n := m)
    calc
      (m : ℚ) * 2 ^ (q - place) < 2 ^ ((m.log2 : Int) + 1) * 2 ^ (q - place) :=
        mul_lt_mul_of_pos_right hupper hpos
      _ = 2 ^ ((m.log2 : Int) + 1 + (q - place)) := hscale _
      _ ≤ 2 ^ ((f.fractionBits : Int) + 1) := zpow_le_zpow_right₀ (by norm_num) (by omega)
      _ = 2 ^ (f.fractionBits + 1) := by exact_mod_cast rfl
  · intro habove
    have hlower : (2 : ℚ) ^ (m.log2 : Int) ≤ m := by
      exact_mod_cast Nat.log2_self_le hm
    calc
      (2 : ℚ) ^ f.fractionBits = 2 ^ ((m.log2 : Int) + (q - place)) := by
        rw [← zpow_natCast]
        congr 1
        omega
      _ = 2 ^ (m.log2 : Int) * 2 ^ (q - place) := (hscale _).symm
      _ ≤ m * 2 ^ (q - place) := mul_le_mul_of_nonneg_right hlower hpos.le

theorem le_roundShift_mul_iff (hf : f.Regular) (m : Nat) (shift : Int) (k : Nat) :
    k * 2 ^ f.fractionBits ≤ roundShift m shift ↔
      k * 2 ^ f.fractionBits - 1 / 2 ≤ (m : ℚ) * 2 ^ shift := by
  have heven : k * 2 ^ f.fractionBits % 2 = 0 := by
    rw [Nat.mul_mod, hf.even_pow_fraction, Nat.mul_zero]
  rw [le_roundShift_iff heven]
  push_cast
  rfl

theorem lt_overflow_of_place {place : Nat} {r : ℚ} (hplace : place + 3 ≤ f.topField)
    (hr : r < 2 ^ (f.fractionBits + 1)) : r * 2 ^ (f.leastExponent + place) < f.overflow := by
  have hexponent : (2 : ℚ) ^ (f.leastExponent + place + 1) ≤ 2 ^ f.topExponent :=
    zpow_le_zpow_right₀ (by norm_num) (by unfold Format.topExponent; omega)
  calc
    r * 2 ^ (f.leastExponent + place) < 2 ^ (f.fractionBits + 1) * 2 ^ (f.leastExponent + place) :=
      mul_lt_mul_of_pos_right hr (by positivity)
    _ = 2 ^ f.fractionBits * 2 ^ (f.leastExponent + place + 1) := by
      rw [zpow_add_one₀ (by norm_num), pow_succ]
      ring
    _ ≤ 2 ^ f.fractionBits * 2 ^ f.topExponent :=
      mul_le_mul_of_nonneg_left hexponent (by positivity)
    _ ≤ f.overflow := f.le_overflow

theorem overflow_le_of_place {place : Nat} {r : ℚ} (hplace : f.topField ≤ place + 1)
    (hr : 2 ^ f.fractionBits ≤ r) : f.overflow ≤ r * 2 ^ (f.leastExponent + place) := by
  have hexponent : (2 : ℚ) ^ (f.topExponent + 1) ≤ 2 ^ (f.leastExponent + place) :=
    zpow_le_zpow_right₀ (by norm_num) (by unfold Format.topExponent; omega)
  calc
    f.overflow ≤ 2 ^ f.fractionBits * 2 ^ (f.topExponent + 1) := f.overflow_le
    _ ≤ 2 ^ f.fractionBits * 2 ^ (f.leastExponent + place) :=
      mul_le_mul_of_nonneg_left hexponent (by positivity)
    _ ≤ r * 2 ^ (f.leastExponent + place) := mul_le_mul_of_nonneg_right hr (by positivity)

/-- A significand that is rounded at some place stays below the field of infinity just when the
number that it stands for is below the overflow. -/
theorem roundShift_lt_iff (hf : f.Regular) {m : Nat} {shift : Int} (place : Nat)
    (hupper : (m : ℚ) * 2 ^ shift < 2 ^ (f.fractionBits + 1))
    (hlower : 0 < place → (2 : ℚ) ^ f.fractionBits ≤ m * 2 ^ shift) :
    roundShift m shift + place * 2 ^ f.fractionBits < f.topField * 2 ^ f.fractionBits ↔
      (m : ℚ) * 2 ^ shift * 2 ^ (f.leastExponent + place) < f.overflow := by
  have hthree := hf.three_le_topField
  have hround := le_roundShift_mul_iff hf m shift
  generalize (m : ℚ) * 2 ^ shift = value at *
  generalize roundShift m shift = rounded at *
  have hplaces : place + 3 ≤ f.topField ∨ place + 2 = f.topField ∨ f.topField ≤ place + 1 := by
    omega
  rcases hplaces with hbelow | hlast | habove
  · -- Even a carry into the next exponent stays below.
    have hrounded : rounded < 3 * 2 ^ f.fractionBits := by
      by_contra hge
      have hvalue := (hround 3).1 (by omega)
      have hunit : (1 : ℚ) ≤ 2 ^ f.fractionBits := one_le_pow₀ (by norm_num)
      rw [pow_succ] at hupper
      push_cast at hvalue
      linarith
    have hfields : (place + 3) * 2 ^ f.fractionBits ≤ f.topField * 2 ^ f.fractionBits :=
      Nat.mul_le_mul_right _ hbelow
    refine iff_of_true ?_ (lt_overflow_of_place hbelow hupper)
    rw [Nat.add_mul] at hfields
    omega
  · have hexponent : f.leastExponent + (place : Int) = f.topExponent := by
      unfold Format.topExponent
      omega
    have hpos : (0 : ℚ) < 2 ^ f.topExponent := by positivity
    have htwo := hround 2
    push_cast at htwo
    rw [Format.overflow, hexponent, mul_lt_mul_iff_left₀ hpos, ← hlast, Nat.add_mul, pow_succ]
    constructor
    · intro h
      by_contra hge
      have hrounded := htwo.2 (by linarith)
      omega
    · intro h
      by_contra hge
      have hvalue := htwo.1 (by omega)
      linarith
  · have hreached : (2 : ℚ) ^ f.fractionBits ≤ value := hlower (by omega)
    have hrounded : 1 * 2 ^ f.fractionBits ≤ rounded := (hround 1).2 (by push_cast; linarith)
    have hfields : f.topField * 2 ^ f.fractionBits ≤ (place + 1) * 2 ^ f.fractionBits :=
      Nat.mul_le_mul_right _ habove
    refine iff_of_false ?_ (not_lt.2 (overflow_le_of_place habove hreached))
    rw [Nat.add_mul] at hfields
    omega

theorem magnitudeBits_le (f : Format) (m : Nat) (q : Int) : magnitudeBits f m q ≤ f.infinity := by
  unfold magnitudeBits
  split
  · exact Nat.zero_le _
  · exact Nat.min_le_right _ _

theorem magnitudeBits_lt_iff (hf : f.Regular) (m : Nat) (q : Int) :
    magnitudeBits f m q < f.infinity ↔ (m : ℚ) * 2 ^ q < f.overflow := by
  by_cases hm : m = 0
  · simp [magnitudeBits, hm, hf.infinity_pos, f.overflow_pos]
  · obtain ⟨hupper, hlower⟩ := significand_bounds (f := f) hm q
    rw [magnitudeBits, if_neg (by simpa using hm)]
    dsimp only
    generalize hplace : max (m.log2 + q - f.fractionBits) f.leastExponent = place at *
    have hfield : f.leastExponent + ((place - f.leastExponent).toNat : Int) = place := by omega
    have hiff := roundShift_lt_iff hf (place - f.leastExponent).toNat hupper
      (fun h => hlower (by omega))
    rw [hfield, mul_assoc, ← zpow_add₀ (by norm_num), Int.sub_add_cancel] at hiff
    rw [← hiff]
    exact min_lt_iff.trans (or_iff_left (Nat.lt_irrefl _))

theorem isFinite_ofExact_finite_iff (hf : f.Regular) (negative : Bool) (m : Nat) (q : Int) :
    (ofExact f (.finite negative m q)).isFinite = true ↔ (m : ℚ) * 2 ^ q < f.overflow := by
  rw [ofExact, isFinite_ofBits_iff negative (magnitudeBits_le f m q), magnitudeBits_lt_iff hf]

theorem isFinite_ofExact_infinite (negative : Bool) :
    (ofExact f (.infinite negative)).isFinite = false := by
  have hiff := isFinite_ofBits_iff (f := f) negative (Nat.le_refl _)
  rw [← Bool.not_eq_true, ofExact, hiff]
  exact Nat.lt_irrefl _

theorem isFinite_ofExact_notANumber (hf : f.Regular) :
    (ofExact f .notANumber).isFinite = false := by
  have hfraction := hf.fraction
  have hquiet : pow2 (f.fractionBits - 1) < 2 ^ f.fractionBits :=
    Nat.pow_lt_pow_right (by decide) (by omega)
  have hinfinity : f.infinity = 2 ^ f.fractionBits * f.topField := Nat.mul_comm ..
  have htop := f.topField_add_one
  have hlt : f.infinity + pow2 (f.fractionBits - 1) < 2 ^ (f.exponentBits + f.fractionBits) := by
    rw [hinfinity, Nat.pow_add, ← htop, Nat.mul_comm (f.topField + 1), Nat.mul_add_one]
    omega
  have hfield := exponentField_ofBits false hlt
  rw [hinfinity, Nat.mul_add_div (Nat.pow_pos (by decide)), Nat.div_eq_of_lt hquiet,
    ← hinfinity] at hfield
  rw [signBit, if_neg (by decide), Nat.zero_add] at hfield
  rw [ofExact, isFinite, hfield]
  simp

/-- Conversion to a format gives a finite number just for the finite ones below its overflow. -/
theorem isFinite_convert_iff (hf : f.Regular) (hg : g.Regular) (x : Binary f) :
    (x.convert g).isFinite = true ↔ x.isFinite = true ∧ x.magnitude < g.overflow := by
  cases hfinite : x.isFinite with
  | true =>
    obtain ⟨m, q, hexact, -⟩ := exact_of_isFinite hf hfinite
    rw [convert, magnitude, hexact, isFinite_ofExact_finite_iff hg]
    simp
  | false =>
    rcases exact_of_not_isFinite hfinite with hexact | ⟨negative, hexact⟩
    · rw [convert, hexact, isFinite_ofExact_notANumber hg]
      simp
    · rw [convert, hexact, isFinite_ofExact_infinite]
      simp

end Binary

end Offload.Number
