import Offload.Proofs.Number.Overflow

/-!
# Rounding to the nearest number

`Binary.RoundsTo` says what a rational number is rounded to, and not how: to the nearest number of
the format, of two that are equally near to the one whose last bit is zero, and from the overflow on
to infinity. `Binary.roundsTo_ofExact` says that `Binary.ofExact` does so in every format, and
`Binary.same_convert` that a number stays the same in a format that holds all those of its own.
-/

set_option autoImplicit false

namespace Offload.Number

/-- A magnitude with its sign. -/
def signed (negative : Bool) (r : ℚ) : ℚ := if negative then -r else r

theorem signed_zero (negative : Bool) : signed negative 0 = 0 := by
  cases negative with
  | false => rfl
  | true => exact neg_zero

theorem abs_signed (negative : Bool) {r : ℚ} (h : 0 ≤ r) : |signed negative r| = r := by
  cases negative with
  | false => exact abs_of_nonneg h
  | true => exact (abs_neg r).trans (abs_of_nonneg h)

theorem abs_signed_sub_signed (negative : Bool) (r s : ℚ) :
    |signed negative r - signed negative s| = |r - s| := by
  cases negative with
  | false => rfl
  | true =>
    rw [abs_sub_comm r s, signed, signed, if_pos rfl, if_pos rfl, neg_sub_neg]

theorem abs_signed_sub_opposite {negative other : Bool} (h : other ≠ negative) {r s : ℚ}
    (hr : 0 ≤ r) (hs : 0 ≤ s) : |signed other r - signed negative s| = r + s := by
  have hsum : |r + s| = r + s := abs_of_nonneg (add_nonneg hr hs)
  cases negative <;> cases other <;> simp only [ne_eq, not_true_eq_false] at h
  · rw [signed, signed, if_pos rfl, if_neg (by decide), ← neg_add', abs_neg, hsum]
  · rw [signed, signed, if_pos rfl, if_neg (by decide), sub_neg_eq_add, hsum]

theorem signed_natAbs (n : Int) : signed (n < 0) n.natAbs = n := by
  rw [signed, Nat.cast_natAbs]
  by_cases hneg : n < 0
  · rw [if_pos (by simpa using hneg), abs_of_neg hneg, Int.cast_neg, neg_neg]
  · rw [if_neg (by simpa using hneg), abs_of_nonneg (Int.not_lt.1 hneg)]

/-! ## Whole numbers of units -/

theorem one_sub_abs_le {k n : ℕ} (h : n ≠ k) (t : ℚ) : 1 - |(k : ℚ) - t| ≤ |(n : ℚ) - t| := by
  have hapart : (1 : ℤ) ≤ |(n : ℤ) - k| := Int.one_le_abs (by omega)
  have hcast : (1 : ℚ) ≤ |(n : ℚ) - k| := by exact_mod_cast hapart
  have htriangle := abs_sub_le (n : ℚ) t k
  rw [abs_sub_comm t] at htriangle
  linarith

/-- The whole number `k` that is at most half away from `t` is no farther away than another whole
number, or than what lies below a whole number below `t`. -/
theorem near_le {k : ℕ} {t u : ℚ} (hk : |(k : ℚ) - t| ≤ 1 / 2)
    (hu : (∃ n : ℕ, u = n) ∨ ∃ n : ℕ, u < n ∧ (n : ℚ) ≤ t) :
    |(k : ℚ) - t| ≤ |u - t| ∧ (|u - t| = |(k : ℚ) - t| → u ≠ k → |(k : ℚ) - t| = 1 / 2) := by
  have hwhole : ∀ n : ℕ, n ≠ k → 1 / 2 ≤ |(n : ℚ) - t| := by
    intro n hn
    have := one_sub_abs_le hn t
    linarith
  rcases hu with ⟨n, rfl⟩ | ⟨n, hun, hnt⟩
  · by_cases hn : n = k
    · subst hn
      exact ⟨le_refl _, fun _ hne => absurd rfl hne⟩
    · refine ⟨hk.trans (hwhole n hn), fun htie _ => le_antisymm hk ?_⟩
      rw [← htie]
      exact hwhole n hn
  · have hle : |(k : ℚ) - t| ≤ |(n : ℚ) - t| := by
      by_cases hn : n = k
      · rw [hn]
      · exact hk.trans (hwhole n hn)
    have hfarther : |(n : ℚ) - t| < |u - t| := by
      rw [abs_of_nonpos (by linarith), abs_of_nonpos (by linarith)]
      linarith
    exact ⟨(hle.trans_lt hfarther).le, fun htie _ => absurd htie (hle.trans_lt hfarther).ne'⟩

namespace Binary

variable {f g : Format}

/-! ## Values -/

/-- The rational number that a finite pattern stands for. -/
def value (x : Binary f) : ℚ := signed x.isNegative x.magnitude

theorem magnitude_nonneg (x : Binary f) : 0 ≤ x.magnitude := by
  unfold magnitude
  split
  · positivity
  · exact le_refl _

theorem abs_value (x : Binary f) : |x.value| = x.magnitude := abs_signed _ x.magnitude_nonneg

theorem abs_magnitude_sub_le (x : Binary f) (negative : Bool) {r : ℚ} (hr : 0 ≤ r) :
    |x.magnitude - r| ≤ |x.value - signed negative r| := by
  have hdistance := abs_abs_sub_abs_le x.value (signed negative r)
  rwa [abs_value, abs_signed negative hr] at hdistance

/-- Two numbers of one magnitude that are equally near to a third one are the same, unless that is
zero. -/
theorem value_eq_of_magnitude {x y : Binary f} {negative : Bool} {r : ℚ}
    (hsign : x.isNegative = negative) (hmagnitude : y.magnitude = x.magnitude) (hr : 0 ≤ r)
    (hzero : r = 0 → x.magnitude = 0)
    (hnear : |y.value - signed negative r| = |x.magnitude - r|) : y.value = x.value := by
  by_cases hsame : y.isNegative = negative
  · rw [value, value, hsame, hsign, hmagnitude]
  · have hnone : x.magnitude = 0 := by
      rw [value, abs_signed_sub_opposite hsame y.magnitude_nonneg hr, hmagnitude] at hnear
      rcases abs_cases (x.magnitude - r) with ⟨habs, -⟩ | ⟨habs, -⟩
      · exact hzero (by linarith)
      · linarith
    rw [value, value, hmagnitude, hnone, signed_zero, signed_zero]

/-- What the rational number `r` is rounded to. The sign is given apart, for the sake of zero. -/
structure RoundsTo (x : Binary f) (negative : Bool) (r : ℚ) : Prop where
  sign : x.isNegative = negative
  finite : |r| < f.overflow → x.isFinite = true
  nearest : |r| < f.overflow → ∀ y : Binary f, y.isFinite = true → |x.value - r| ≤ |y.value - r|
  even : |r| < f.overflow → ∀ y : Binary f, y.isFinite = true → y.value ≠ x.value →
    |y.value - r| = |x.value - r| → x.toBits % 2 = 0
  infinite : f.overflow ≤ |r| → x.exact = .infinite negative

structure Same (x : Binary f) (y : Binary g) : Prop where
  sign : x.isNegative = y.isNegative
  finite : x.isFinite = y.isFinite
  notANumber : x.isNaN = y.isNaN
  value : x.value = y.value

/-! ## Patterns that are put together -/

section Patterns

variable (negative : Bool) {units place : Nat}

theorem magnitude_ofBits (hunits : units ≤ 2 ^ (f.fractionBits + 1))
    (hplace : 0 < place → 2 ^ f.fractionBits ≤ units)
    (hfinite : units + place * 2 ^ f.fractionBits < f.infinity) :
    (ofBits f (signBit f negative + (units + place * 2 ^ f.fractionBits))).magnitude =
      units * 2 ^ (f.leastExponent + place) := by
  have hone : 0 < 2 ^ f.fractionBits := Nat.pow_pos (by decide)
  have hlt := hfinite.trans f.infinity_lt
  have hfield := isFinite_ofBits_iff negative hfinite.le
  have hexponent := exponentField_ofBits negative hlt
  have hfraction := fractionField_ofBits negative hlt
  generalize ofBits f (signBit f negative + (units + place * 2 ^ f.fractionBits)) = x at *
  rw [Nat.add_mul_div_right _ _ hone] at hexponent
  rw [Nat.add_mul_mod_self_right] at hfraction
  have htop : x.exponentField ≠ f.topField := by simpa [isFinite] using hfield.2 hfinite
  have hsplit := Nat.div_add_mod units (2 ^ f.fractionBits)
  rw [magnitude, exact, if_neg (by simpa using htop), hexponent, hfraction, pow2_eq]
  rw [Nat.pow_succ] at hunits
  rcases Nat.lt_or_ge units (2 ^ f.fractionBits) with hbelow | hfull
  · -- One of the smallest numbers.
    have hzero : place = 0 := by omega
    rw [hzero, Nat.div_eq_of_lt hbelow, Nat.mod_eq_of_lt hbelow]
    simp
  · rcases Nat.lt_or_ge units (2 * 2 ^ f.fractionBits) with hnormal | hcarry
    · have hquotient : units / 2 ^ f.fractionBits = 1 := by
        apply Nat.div_eq_of_lt_le <;> omega
      rw [hquotient, Nat.mul_one] at hsplit
      rw [hquotient, if_neg (by simp), Nat.add_comm (units % _), hsplit, Nat.add_sub_cancel_left]
    · -- The carry has moved into the exponent.
      have hcarried : units = 2 * 2 ^ f.fractionBits := by omega
      have hquotient : units / 2 ^ f.fractionBits = 2 := by
        rw [hcarried, Nat.mul_div_cancel _ hone]
      have hrest : units % 2 ^ f.fractionBits = 0 := by rw [hcarried, Nat.mul_mod_left]
      have hnext : f.leastExponent + ((2 + place - 1 : Nat) : Int) =
          f.leastExponent + place + 1 := by omega
      rw [hquotient, hrest, if_neg (by simp), Nat.zero_add]
      dsimp only
      rw [hnext, zpow_add_one₀ (by norm_num), hcarried]
      push_cast
      ring

theorem even_toBits_ofBits (hf : f.Regular)
    (hfinite : units + place * 2 ^ f.fractionBits < f.infinity) (heven : units % 2 = 0) :
    (ofBits f (signBit f negative + (units + place * 2 ^ f.fractionBits))).toBits % 2 = 0 := by
  have hsign : negative.toNat * 2 ^ (f.exponentBits + f.fractionBits) % 2 = 0 := by
    rw [Nat.pow_add, ← Nat.mul_assoc, Nat.mul_mod, hf.even_pow_fraction, Nat.mul_zero]
  have hfield : place * 2 ^ f.fractionBits % 2 = 0 := by
    rw [Nat.mul_mod, hf.even_pow_fraction, Nat.mul_zero]
  rw [toBits_ofBits negative (hfinite.trans f.infinity_lt)]
  omega

theorem ofExact_zero (hf : f.Regular) (q : Int) :
    (ofExact f (.finite negative 0 q)).magnitude = 0 ∧
      (ofExact f (.finite negative 0 q)).toBits % 2 = 0 := by
  have hbits : magnitudeBits f 0 q = 0 + 0 * 2 ^ f.fractionBits := by
    rw [Nat.zero_mul]
    rfl
  have hfinite : 0 + 0 * 2 ^ f.fractionBits < f.infinity := by simpa using hf.infinity_pos
  rw [ofExact, hbits]
  refine ⟨?_, even_toBits_ofBits negative hf hfinite rfl⟩
  rw [magnitude_ofBits negative (Nat.zero_le _) (fun h => absurd h (Nat.lt_irrefl 0)) hfinite,
    Nat.cast_zero, zero_mul]

end Patterns

theorem exact_of_infinite (f : Format) (negative : Bool) :
    (ofBits f (signBit f negative + f.infinity)).exact = .infinite negative := by
  have hone : 0 < 2 ^ f.fractionBits := Nat.pow_pos (by decide)
  rw [exact, exponentField_ofBits negative f.infinity_lt,
    fractionField_ofBits negative f.infinity_lt, isNegative_ofBits negative f.infinity_lt,
    Format.infinity, pow2_eq, Nat.mul_div_cancel _ hone, Nat.mul_mod_left]
  simp

/-! ## Rounding to a format -/

section OfExact

variable (hf : f.Regular) (negative : Bool) {m : Nat} {q : Int}
include hf

/-- A finite value below the overflow is rounded to a whole number of units at some place, which is
at most half a unit away. Places above the least one are those of the leading bits. -/
theorem exists_units (h : (m : ℚ) * 2 ^ q < f.overflow) :
    ∃ (units : ℕ) (place : Int) (t : ℚ), (m : ℚ) * 2 ^ q = t * 2 ^ place ∧
      (ofExact f (.finite negative m q)).magnitude = units * 2 ^ place ∧
      |(units : ℚ) - t| ≤ 1 / 2 ∧
      (|(units : ℚ) - t| = 1 / 2 → (ofExact f (.finite negative m q)).toBits % 2 = 0) ∧
      (f.leastExponent < place → (2 ^ f.fractionBits : ℕ) ≤ t) := by
  by_cases hm : m = 0
  · subst hm
    obtain ⟨hmagnitude, heven⟩ := ofExact_zero negative hf q
    refine ⟨0, f.leastExponent, 0, ?_, ?_, by norm_num, fun _ => heven,
      fun h => absurd h (lt_irrefl _)⟩
    · rw [Nat.cast_zero, zero_mul, zero_mul]
    · rw [hmagnitude, Nat.cast_zero, zero_mul]
  · obtain ⟨hupper, hlower⟩ := significand_bounds (f := f) hm q
    have hinfinity := (magnitudeBits_lt_iff hf m q).2 h
    rw [ofExact]
    rw [magnitudeBits, if_neg (by simpa using hm), pow2_eq] at hinfinity ⊢
    dsimp only at hinfinity ⊢
    generalize hplace : max (m.log2 + q - f.fractionBits) f.leastExponent = place at *
    have hfield : f.leastExponent + ((place - f.leastExponent).toNat : Int) = place := by omega
    obtain ⟨hnear, htie⟩ := roundShift_near m (q - place)
    obtain ⟨hbelow, habove⟩ := abs_le.1 hnear
    have hunits : roundShift m (q - place) ≤ 2 ^ (f.fractionBits + 1) := by
      have hcast : (roundShift m (q - place) : ℚ) < (2 ^ (f.fractionBits + 1) : Nat) + 1 := by
        push_cast
        linarith
      exact Nat.lt_succ_iff.1 (by exact_mod_cast hcast)
    have hfull : 0 < (place - f.leastExponent).toNat →
        2 ^ f.fractionBits ≤ roundShift m (q - place) := by
      intro hpositive
      have hleading := hlower (by omega)
      have hcast : ((2 ^ f.fractionBits : Nat) : ℚ) < roundShift m (q - place) + 1 := by
        push_cast
        linarith
      exact Nat.lt_succ_iff.1 (by exact_mod_cast hcast)
    have hfinite := (min_lt_iff.1 hinfinity).resolve_right (Nat.lt_irrefl _)
    rw [min_eq_left hfinite.le]
    refine ⟨roundShift m (q - place), place, m * 2 ^ (q - place), ?_, ?_, hnear,
      fun h => even_toBits_ofBits negative hf hfinite (htie h), ?_⟩
    · rw [mul_assoc, ← zpow_add₀ (by norm_num), Int.sub_add_cancel]
    · rw [magnitude_ofBits negative hunits hfull hfinite, hfield]
    · push_cast
      exact hlower

end OfExact

/-- A finite number is a whole number of units at a place, or less than all that has its leading bit
there. -/
theorem units_of_isFinite (hf : f.Regular) {y : Binary f} (hy : y.isFinite = true) (place : Int) :
    ∃ u : ℚ, y.magnitude = u * 2 ^ place ∧
      ((∃ n : ℕ, u = n) ∨ f.leastExponent < place ∧ u < (2 ^ f.fractionBits : ℕ)) := by
  obtain ⟨m, q, hexact, hm, hleast, -⟩ := exact_of_isFinite hf hy
  refine ⟨m * 2 ^ (q - place), ?_, ?_⟩
  · rw [magnitude, hexact, mul_assoc, ← zpow_add₀ (by norm_num), Int.sub_add_cancel]
  · rcases lt_or_ge q place with hlow | hhigh
    · refine .inr ⟨by omega, ?_⟩
      have hcast : (m : ℚ) < 2 ^ (f.fractionBits + 1) := by exact_mod_cast hm
      have hhalf : (2 : ℚ) ^ (q - place) ≤ 2 ^ (-1 : Int) :=
        zpow_le_zpow_right₀ (by norm_num) (by omega)
      calc
        (m : ℚ) * 2 ^ (q - place) < 2 ^ (f.fractionBits + 1) * 2 ^ (q - place) :=
          mul_lt_mul_of_pos_right hcast (by positivity)
        _ ≤ 2 ^ (f.fractionBits + 1) * 2 ^ (-1 : Int) :=
          mul_le_mul_of_nonneg_left hhalf (by positivity)
        _ = (2 ^ f.fractionBits : ℕ) := by
          rw [pow_succ, zpow_neg_one]
          push_cast
          ring
    · refine .inl ⟨m * 2 ^ (q - place).toNat, ?_⟩
      have hshift : q - place = ((q - place).toNat : Int) := by omega
      rw [hshift, zpow_natCast, Int.toNat_natCast]
      push_cast
      rfl

/-- No finite number is nearer to a magnitude than the one it is rounded to. -/
theorem magnitude_near (hf : f.Regular) (negative : Bool) {m : Nat} {q : Int}
    (h : (m : ℚ) * 2 ^ q < f.overflow) {y : Binary f} (hy : y.isFinite = true) :
    let x := ofExact f (.finite negative m q)
    |x.magnitude - m * 2 ^ q| ≤ |y.magnitude - m * 2 ^ q| ∧
      (|y.magnitude - m * 2 ^ q| = |x.magnitude - m * 2 ^ q| → y.magnitude ≠ x.magnitude →
        x.toBits % 2 = 0) ∧
      ((m : ℚ) * 2 ^ q = 0 → x.magnitude = 0) := by
  intro x
  obtain ⟨units, place, t, ht, hunits, hnear, heven, hleading⟩ := exists_units hf negative h
  obtain ⟨u, hu, hgrid⟩ := units_of_isFinite hf hy place
  have hpos : (0 : ℚ) < 2 ^ place := by positivity
  have hscale : ∀ a : ℚ, |a * 2 ^ place - t * 2 ^ place| = |a - t| * 2 ^ place := by
    intro a
    rw [← sub_mul, abs_mul, abs_of_pos hpos]
  have hbelow : (∃ n : ℕ, u = n) ∨ ∃ n : ℕ, u < n ∧ (n : ℚ) ≤ t := by
    rcases hgrid with hwhole | ⟨hplace, hlow⟩
    · exact .inl hwhole
    · exact .inr ⟨_, hlow, hleading hplace⟩
  obtain ⟨hle, htie⟩ := near_le hnear hbelow
  have hx : x.magnitude = units * 2 ^ place := hunits
  rw [ht, hx, hu, hscale, hscale]
  refine ⟨mul_le_mul_of_nonneg_right hle hpos.le, fun hequal hne => ?_, fun hzero => ?_⟩
  · refine heven (htie (mul_right_cancel₀ hpos.ne' hequal) ?_)
    rintro rfl
    exact hne rfl
  · have htzero : t = 0 := (mul_eq_zero.1 hzero).resolve_right hpos.ne'
    rw [htzero, sub_zero, abs_of_nonneg (Nat.cast_nonneg _)] at hnear
    have hcast : (units : ℚ) < 1 := by linarith
    have hnone : units = 0 := Nat.lt_one_iff.1 (by exact_mod_cast hcast)
    rw [hnone, Nat.cast_zero, zero_mul]

theorem roundsTo_ofExact (hf : f.Regular) (negative : Bool) (m : Nat) (q : Int) :
    (ofExact f (.finite negative m q)).RoundsTo negative (signed negative (m * 2 ^ q)) := by
  have hnonneg : (0 : ℚ) ≤ m * 2 ^ q := by positivity
  have hsign : (ofExact f (.finite negative m q)).isNegative = negative :=
    isNegative_ofBits negative ((magnitudeBits_le f m q).trans_lt f.infinity_lt)
  have hvalue : |(ofExact f (.finite negative m q)).value - signed negative (m * 2 ^ q)| =
      |(ofExact f (.finite negative m q)).magnitude - m * 2 ^ q| := by
    rw [value, hsign, abs_signed_sub_signed]
  refine ⟨hsign, ?_, ?_, ?_, ?_⟩ <;> rw [abs_signed negative hnonneg]
  · exact (isFinite_ofExact_finite_iff hf negative m q).2
  · intro hbelow y hy
    rw [hvalue]
    exact (magnitude_near hf negative hbelow hy).1.trans (y.abs_magnitude_sub_le negative hnonneg)
  · intro hbelow y hy hne htie
    obtain ⟨hnear, heven, hzero⟩ := magnitude_near hf negative hbelow hy
    rw [hvalue] at htie
    refine heven (le_antisymm ?_ hnear) fun hmagnitude => hne ?_
    · rw [← htie]
      exact y.abs_magnitude_sub_le negative hnonneg
    · exact value_eq_of_magnitude hsign hmagnitude hnonneg hzero htie
  · intro habove
    have hbits : magnitudeBits f m q = f.infinity := by
      have hlt := (magnitudeBits_lt_iff hf m q).not.2 (not_lt.2 habove)
      exact le_antisymm (magnitudeBits_le f m q) (not_lt.1 hlt)
    rw [ofExact, hbits]
    exact exact_of_infinite f negative

theorem roundsTo_ofInt (hf : f.Regular) (n : Int) : (ofInt f n).RoundsTo (n < 0) n := by
  have hrounds := roundsTo_ofExact hf (n < 0) n.natAbs 0
  rwa [zpow_zero, mul_one, signed_natAbs] at hrounds

theorem roundsTo_convert (hf : f.Regular) (hg : g.Regular) {x : Binary f}
    (hx : x.isFinite = true) : (x.convert g).RoundsTo x.isNegative x.value := by
  obtain ⟨m, q, hexact, -⟩ := exact_of_isFinite hf hx
  have hrounds := roundsTo_ofExact hg x.isNegative m q
  have hvalue : x.value = signed x.isNegative (m * 2 ^ q) := by rw [value, magnitude, hexact]
  rwa [← hexact, ← hvalue] at hrounds

/-! ## Numbers in wider formats -/

theorem isNaN_of_isFinite {x : Binary f} (h : x.isFinite = true) : x.isNaN = false := by
  rw [isNaN, ← Bool.not_eq_true, Bool.and_eq_true]
  rintro ⟨htop, -⟩
  simp [isFinite, beq_iff_eq.1 htop] at h

theorem fields_of_infinite {x : Binary f} {negative : Bool} (h : x.exact = .infinite negative) :
    x.isNegative = negative ∧ x.isFinite = false ∧ x.isNaN = false ∧ x.value = 0 := by
  have hmagnitude : x.magnitude = 0 := by rw [magnitude, h]
  have hvalue : x.value = 0 := by rw [value, hmagnitude, signed_zero]
  unfold exact at h
  split at h
  · rename_i htop
    split at h
    · rename_i hfraction
      refine ⟨Exact.infinite.inj h, ?_, ?_, hvalue⟩
      · rw [isFinite, bne, htop, Bool.not_true]
      · rw [isNaN, bne, hfraction, Bool.not_true, Bool.and_false]
    · cases h
  · split at h <;> cases h

theorem RoundsTo.isNaN {x : Binary f} {negative : Bool} {r : ℚ} (h : x.RoundsTo negative r) :
    x.isNaN = false := by
  rcases lt_or_ge |r| f.overflow with hbelow | habove
  · exact isNaN_of_isFinite (h.finite hbelow)
  · exact (fields_of_infinite (h.infinite habove)).2.2.1

theorem exact_of_isNaN {x : Binary f} (h : x.isNaN = false) (hx : x.isFinite = false) :
    x.exact = .infinite x.isNegative := by
  have hfield : x.exponentField = f.topField := by simpa [isFinite] using hx
  have hfraction : x.fractionField = 0 := by simpa [isNaN, hfield] using h
  rw [exact, if_pos (by simpa using hfield), if_pos (by simpa using hfraction)]

end Binary

/-- Every finite number of one format is one of another. -/
structure Format.Within (f g : Format) : Prop where
  fraction : f.fractionBits ≤ g.fractionBits
  least : g.leastExponent ≤ f.leastExponent
  overflow : f.overflow ≤ g.overflow

theorem Format.within_refl (f : Format) : f.Within f := ⟨le_refl _, le_refl _, le_refl _⟩

theorem Format.single_within_double : single.Within double :=
  ⟨by decide, by decide, overflow_single_le_double⟩

namespace Binary

variable {f g : Format}

/-- The last place of a number is one of the wider format too, so that nothing is rounded off. -/
theorem magnitude_convert (hf : f.Regular) (hg : g.Regular) (hfg : f.Within g) {x : Binary f}
    (hx : x.isFinite = true) : (x.convert g).magnitude = x.magnitude := by
  obtain ⟨m, q, hexact, -⟩ := exact_of_isFinite hf hx
  have hmagnitude : x.magnitude = m * 2 ^ q := by rw [magnitude, hexact]
  have hbelow : (m : ℚ) * 2 ^ q < g.overflow := by
    rw [← hmagnitude]
    exact (magnitude_lt_overflow hf hx).trans_le hfg.overflow
  obtain ⟨units, place, t, ht, hunits, hnear, -, hleading⟩ := exists_units hg x.isNegative hbelow
  obtain ⟨u, hu, hgrid⟩ := units_of_isFinite hf hx place
  have hpos : (0 : ℚ) < 2 ^ place := by positivity
  obtain rfl : u = t := mul_right_cancel₀ hpos.ne' (by rw [← hu, ← ht, hmagnitude])
  rw [convert, hexact, hunits, hu]
  rcases hgrid with ⟨n, rfl⟩ | ⟨hplace, hlow⟩
  · have hsame : n = units := by
      by_contra hne
      have hapart := one_sub_abs_le hne (n : ℚ)
      rw [sub_self, abs_zero] at hapart
      linarith
    rw [hsame]
  · have hpow : ((2 ^ f.fractionBits : ℕ) : ℚ) ≤ (2 ^ g.fractionBits : ℕ) := by
      exact_mod_cast Nat.pow_le_pow_right (by decide) hfg.fraction
    have hhigh := hleading (hfg.least.trans_lt hplace)
    linarith

theorem same_convert (hf : f.Regular) (hg : g.Regular) (hfg : f.Within g) {x : Binary f}
    (hx : x.isNaN = false) : (x.convert g).Same x := by
  cases hfinite : x.isFinite with
  | true =>
    obtain ⟨m, q, hexact, -⟩ := exact_of_isFinite hf hfinite
    have hconvert : (x.convert g).isFinite = true := by
      rw [isFinite_convert_iff hf hg]
      exact ⟨hfinite, (magnitude_lt_overflow hf hfinite).trans_le hfg.overflow⟩
    have hsign : (x.convert g).isNegative = x.isNegative := by
      rw [convert, hexact]
      exact (roundsTo_ofExact hg _ _ _).sign
    refine ⟨hsign, hconvert.trans hfinite.symm, (isNaN_of_isFinite hconvert).trans hx.symm, ?_⟩
    rw [value, value, hsign, magnitude_convert hf hg hfg hfinite]
  | false =>
    have hexact := exact_of_isNaN hx hfinite
    have hconvert : (x.convert g).exact = .infinite x.isNegative := by
      rw [convert, hexact]
      exact exact_of_infinite g x.isNegative
    obtain ⟨hsign, hinfinite, hnumber, hvalue⟩ := fields_of_infinite hconvert
    obtain ⟨-, -, -, hvalue'⟩ := fields_of_infinite hexact
    exact ⟨hsign, hinfinite.trans hfinite.symm, hnumber.trans hx.symm, hvalue.trans hvalue'.symm⟩

end Binary

end Offload.Number
