import Mathlib.Data.List.TakeWhile
import Offload.Text.Blank
import Offload.Text.Lowercase

/-!
# Texts up to case and blanks

Two texts that differ in the case of ASCII letters have the same lowercase form, and two that differ
in the blanks around them the same trimmed form. Lowercasing looks at the letters around a sigma, but
only at properties that a capital shares with its small letter: `lower_map_toLower`.
-/

set_option autoImplicit false

namespace Offload.Text

/-! ## ASCII capitals -/

def capital (n : Nat) : Char := Char.ofNat (65 + n)

theorem exists_capital {c : Char} (h : c.isUpper = true) : ∃ n < 26, capital n = c := by
  have hvalue : 'A'.val ≤ c.val ∧ c.val ≤ 'Z'.val := of_decide_eq_true h
  have hrange : 65 ≤ c.toNat ∧ c.toNat ≤ 90 := by
    simpa [UInt32.le_iff_toNat_le, ← Char.toNat_val] using hvalue
  refine ⟨c.toNat - 65, by omega, ?_⟩
  rw [capital, Nat.add_sub_cancel' hrange.1, Char.ofNat_toNat]

/-- What every capital shares with its small letter, every character shares with its lowercase
form. -/
theorem toLower_shares {α : Type} {f : Char → α}
    (hcapitals : ∀ n < 26, f (capital n).toLower = f (capital n)) (c : Char) :
    f c.toLower = f c := by
  by_cases h : c.isUpper = true
  · obtain ⟨n, hn, rfl⟩ := exists_capital h
    exact hcapitals n hn
  · have hsame : c.toLower = c := dif_neg fun hrange => h (decide_eq_true hrange)
    rw [hsame]

/-! ## Lowercase forms -/

theorem not_caseIgnorable_of_letter {n : Nat} (h : 65 ≤ n ∧ n ≤ 90 ∨ 97 ≤ n ∧ n ≤ 122) :
    inRanges caseIgnorableRanges n = false := by
  have hclear : ∀ r ∈ caseIgnorableRanges, r.2 < 65 ∨ 90 < r.1 ∧ r.2 < 97 ∨ 122 < r.1 := by
    decide +kernel
  rw [inRanges, List.any_eq_false]
  intro r hr
  have hr := hclear r hr
  simp only [Bool.and_eq_true, decide_eq_true_eq]
  omega

theorem caseIgnorable_toLower (c : Char) :
    inRanges caseIgnorableRanges c.toLower.toNat = inRanges caseIgnorableRanges c.toNat := by
  have hletters : ∀ n < 26, (65 ≤ (capital n).toNat ∧ (capital n).toNat ≤ 90) ∧
      97 ≤ (capital n).toLower.toNat ∧ (capital n).toLower.toNat ≤ 122 := by decide
  refine toLower_shares (f := fun c => inRanges caseIgnorableRanges c.toNat) (fun n hn => ?_) c
  obtain ⟨hcapital, hsmall⟩ := hletters n hn
  rw [not_caseIgnorable_of_letter (.inl hcapital), not_caseIgnorable_of_letter (.inr hsmall)]

theorem cased_toLower (c : Char) :
    inRanges casedRanges c.toLower.toNat = inRanges casedRanges c.toNat :=
  toLower_shares (f := fun c => inRanges casedRanges c.toNat) (by decide +kernel) c

theorem lowerChar_toLower (c : Char) : lowerChar c.toLower = lowerChar c :=
  toLower_shares (by decide +kernel) c

theorem sigma_toLower (c : Char) : (c.toLower == 'Σ') = (c == 'Σ') :=
  toLower_shares (f := (· == 'Σ')) (by decide +kernel) c

theorem meetsCased_map_toLower (cs : List Char) :
    meetsCased (cs.map Char.toLower) = meetsCased cs := by
  have hignored : (fun c => inRanges caseIgnorableRanges c.toNat) ∘ Char.toLower =
      fun c => inRanges caseIgnorableRanges c.toNat := funext caseIgnorable_toLower
  rw [meetsCased, meetsCased, List.dropWhile_map, hignored]
  cases cs.dropWhile fun c => inRanges caseIgnorableRanges c.toNat with
  | nil => rfl
  | cons c rest => exact cased_toLower c

theorem lowerAfter_map_toLower (before cs : List Char) :
    lowerAfter (before.map Char.toLower) (cs.map Char.toLower) = lowerAfter before cs := by
  induction cs generalizing before with
  | nil => rfl
  | cons c rest ih =>
    simp only [List.map_cons, lowerAfter, lowerAt, sigma_toLower, lowerChar_toLower,
      meetsCased_map_toLower]
    rw [← List.map_cons, ih]

theorem lower_map_toLower (cs : List Char) : lower (cs.map Char.toLower) = lower cs :=
  lowerAfter_map_toLower [] cs

/-! ## Trimmed forms -/

theorem isBlank_toLower (c : Char) : isBlank c.toLower = isBlank c :=
  toLower_shares (by decide +kernel) c

theorem trim_map_toLower (cs : List Char) :
    trim (cs.map Char.toLower) = (trim cs).map Char.toLower := by
  have hblank : isBlank ∘ Char.toLower = isBlank := funext isBlank_toLower
  simp only [trim, trimEnd, List.dropWhile_map, hblank, ← List.map_reverse]

theorem trimEnd_append {cs after : List Char} (h : ∀ c ∈ after, isBlank c = true) :
    trimEnd (cs ++ after) = trimEnd cs := by
  have hreverse : ∀ c ∈ after.reverse, isBlank c = true := by simpa using h
  rw [trimEnd, List.reverse_append, List.dropWhile_append_of_pos hreverse, trimEnd]

theorem trim_eq_nil_iff {cs : List Char} : trim cs = [] ↔ ∀ c ∈ cs, isBlank c = true := by
  constructor
  · intro h c hc
    have hend : ∀ d ∈ cs.dropWhile isBlank, isBlank d = true := by
      simpa [trim, trimEnd, List.dropWhile_eq_nil_iff] using h
    -- The first character that is kept would not be blank.
    have hnone : cs.dropWhile isBlank = [] := by
      cases hkept : cs.dropWhile isBlank with
      | nil => rfl
      | cons d rest =>
        have hd := List.head?_dropWhile_not isBlank cs
        simp [hkept, hend d (by simp [hkept])] at hd
    exact List.dropWhile_eq_nil_iff.mp hnone c hc
  · intro h
    rw [trim, List.dropWhile_eq_nil_iff.mpr h]
    rfl

theorem trim_surrounded {before cs after : List Char} (hbefore : ∀ c ∈ before, isBlank c = true)
    (hafter : ∀ c ∈ after, isBlank c = true) : trim (before ++ cs ++ after) = trim cs := by
  rw [trim, List.append_assoc, List.dropWhile_append_of_pos hbefore, List.dropWhile_append]
  by_cases hblank : cs.dropWhile isBlank = []
  · -- Nothing but blanks: what comes after is dropped from the front.
    have hnone : after.dropWhile isBlank = [] := List.dropWhile_eq_nil_iff.mpr hafter
    simp [trim, hblank, hnone]
  · rw [if_neg (by simpa using hblank), trimEnd_append hafter, trim]

/-! ## Both at once -/

/-- The second text is the first one with other blanks around it, and ASCII letters in either
case. -/
def Restyled (s t : String) : Prop :=
  ∃ before middle after : List Char, t.toList = before ++ middle ++ after ∧
    (∀ c ∈ before, isBlank c = true) ∧ (∀ c ∈ after, isBlank c = true) ∧
    equalsIgnoringAsciiCase s (String.ofList middle) = true

theorem lower_trim_of_restyled {s t : String} (h : Restyled s t) :
    lower (trim t.toList) = lower (trim s.toList) := by
  obtain ⟨before, middle, after, ht, hbefore, hafter, hcase⟩ := h
  have hmiddle : s.toList.map Char.toLower = middle.map Char.toLower := by
    simpa [equalsIgnoringAsciiCase] using hcase
  calc
    lower (trim t.toList) = lower (trim middle) := by rw [ht, trim_surrounded hbefore hafter]
    _ = lower (trim (middle.map Char.toLower)) := by rw [trim_map_toLower, lower_map_toLower]
    _ = lower (trim (s.toList.map Char.toLower)) := by rw [hmiddle]
    _ = lower (trim s.toList) := by rw [trim_map_toLower, lower_map_toLower]

end Offload.Text
