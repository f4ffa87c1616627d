import Offload.Device.Spec
import Offload.Proofs.Text.CaseAndBlanks

/-!
# Reading, writing and resolving device specifications

`Denotes` lists the texts that ask for a device, in lowercase and without blanks around them.
Reading a text finds what its plain form denotes, and nothing else, so it takes back what is written
for a specification, and the text of a device that is present leads to a device of that vendor and
index: `specifications_agree`.
-/

set_option autoImplicit false

namespace Offload.Device.Spec

open Text

/-! ## The texts that denote a specification -/

def aliases : Vendor → List String
  | .host => []
  | .amd => ["amd", "rocm", "hip"]
  | .nvidia => ["nvidia", "cuda"]
  | .intel => ["intel", "level-zero", "l0"]

/-- A decimal number after an optional plus sign. -/
inductive Numeral : List Char → Nat → Prop
  | plain {digits : List Char} : digits ≠ [] → (∀ c ∈ digits, c.isDigit = true) →
    Numeral digits (Nat.ofDigitChars 10 digits 0)
  | signed {digits : List Char} : digits ≠ [] → (∀ c ∈ digits, c.isDigit = true) →
    Numeral ('+' :: digits) (Nat.ofDigitChars 10 digits 0)

/-- The text asks for a device in these terms. -/
inductive Denotes : List Char → Spec → Prop
  | auto : Denotes "auto".toList .auto
  | host : Denotes "host".toList .host
  | cpu : Denotes "cpu".toList .host
  | vendor {v : Vendor} {word : String} : word ∈ aliases v → Denotes word.toList (.gpu v 0)
  | indexed {v : Vendor} {word : String} {index : UInt64} {numeral : List Char} :
    word ∈ aliases v → Numeral numeral index.toNat →
    Denotes (word.toList ++ ':' :: numeral) (.gpu v index)

/-! ## Numerals -/

theorem le_ofDigitChars (cs : List Char) (n : Nat) : n ≤ Nat.ofDigitChars 10 cs n := by
  induction cs generalizing n with
  | nil => simp
  | cons c rest ih =>
    rw [Nat.ofDigitChars_cons]
    have hrest := ih (10 * n + (c.toNat - '0'.toNat))
    omega

theorem readDigits_eq_ok_iff {cs : List Char} {n m : Nat} (hn : n < UInt64.size) :
    readDigits n cs = .ok m ↔
      (∀ c ∈ cs, c.isDigit = true) ∧ Nat.ofDigitChars 10 cs n = m ∧ m < UInt64.size := by
  induction cs generalizing n with
  | nil =>
    simp only [readDigits, Except.ok.injEq, Nat.ofDigitChars_nil, List.not_mem_nil, false_imp_iff,
      implies_true, true_and]
    exact ⟨fun h => ⟨h, h ▸ hn⟩, And.left⟩
  | cons c rest ih =>
    rw [readDigits, List.forall_mem_cons, Nat.ofDigitChars_cons, Nat.mul_comm 10]
    by_cases hdigit : c.isDigit = true
    · by_cases hfits : n * 10 + (c.toNat - '0'.toNat) < UInt64.size
      · simp only [hdigit, hfits, if_true, ih hfits, true_and]
      · have hgrows := le_ofDigitChars rest (n * 10 + (c.toNat - '0'.toNat))
        simp only [hdigit, hfits, if_true, if_false, reduceCtorEq, false_iff, true_and]
        rintro ⟨-, rfl, hsize⟩
        exact hfits (Nat.lt_of_le_of_lt hgrows hsize)
    · simp [hdigit]

theorem map_readDigits_eq_ok_iff {cs : List Char} {i : UInt64} :
    (readDigits 0 cs).map UInt64.ofNat = .ok i ↔
      (∀ c ∈ cs, c.isDigit = true) ∧ Nat.ofDigitChars 10 cs 0 = i.toNat := by
  have hzero : 0 < UInt64.size := by decide
  constructor
  · intro h
    cases hread : readDigits 0 cs with
    | error cause => simp [hread, Except.map] at h
    | ok m =>
      obtain ⟨hdigits, hvalue, hsize⟩ := (readDigits_eq_ok_iff hzero).mp hread
      simp only [hread, Except.map, Except.ok.injEq] at h
      refine ⟨hdigits, ?_⟩
      rw [hvalue, ← h, UInt64.toNat_ofNat_of_lt' hsize]
  · rintro ⟨hdigits, hvalue⟩
    have hread : readDigits 0 cs = .ok i.toNat :=
      (readDigits_eq_ok_iff hzero).mpr ⟨hdigits, hvalue, i.toNat_lt⟩
    rw [hread, Except.map, UInt64.ofNat_toNat]

theorem readIndex_eq_ok_iff {cs : List Char} {i : UInt64} :
    readIndex cs = .ok i ↔ Numeral cs i.toNat := by
  constructor
  · intro h
    unfold readIndex at h
    split at h
    · cases h
    · cases h
    · rename_i rest hrest
      obtain ⟨hdigits, hvalue⟩ := map_readDigits_eq_ok_iff.mp h
      rw [← hvalue]
      exact .signed (fun hnil => hrest (by rw [hnil])) hdigits
    · rename_i hnil _ _
      obtain ⟨hdigits, hvalue⟩ := map_readDigits_eq_ok_iff.mp h
      rw [← hvalue]
      exact .plain hnil hdigits
  · generalize hm : i.toNat = m
    intro h
    cases h with
    | plain hne hdigits =>
      unfold readIndex
      split
      · exact absurd rfl hne
      · exact absurd (hdigits '+' (by simp)) (by decide)
      · exact absurd (hdigits '+' (by simp)) (by decide)
      · exact map_readDigits_eq_ok_iff.mpr ⟨hdigits, hm.symm⟩
    | signed hne hdigits =>
      unfold readIndex
      split
      · rename_i hempty
        cases hempty
      · rename_i hnil
        exact absurd (List.cons.inj hnil).2 hne
      · rename_i rest _ hrest
        cases hrest
        exact map_readDigits_eq_ok_iff.mpr ⟨hdigits, hm.symm⟩
      · rename_i hother
        exact absurd rfl (hother _)

theorem numeral_toDigits (n : Nat) : Numeral (Nat.toDigits 10 n) n := by
  have hnumeral : Numeral (Nat.toDigits 10 n) (Nat.ofDigitChars 10 (Nat.toDigits 10 n) 0) :=
    .plain Nat.toDigits_ne_nil fun c hc => Nat.isDigit_of_mem_toDigits (by decide) (by decide) hc
  rwa [Nat.ofDigitChars_ten_toDigits] at hnumeral

/-! ## Words -/

theorem vendorOfAlias_eq_some_iff {cs : List Char} {v : Vendor} :
    vendorOfAlias cs = some v ↔ ∃ word ∈ aliases v, cs = word.toList := by
  constructor
  · intro h
    unfold vendorOfAlias at h
    split at h
    · rename_i hamd
      cases h
      simpa [aliases] using hamd
    · split at h
      · rename_i hnvidia
        cases h
        simpa [aliases] using hnvidia
      · split at h
        · rename_i hintel
          cases h
          simpa [aliases] using hintel
        · cases h
  · rintro ⟨word, hword, rfl⟩
    have hall : ∀ v, ∀ word ∈ aliases v, vendorOfAlias word.toList = some v := by
      intro v
      cases v <;> decide
    exact hall v word hword

theorem colon_not_mem_alias {v : Vendor} {word : String} (h : word ∈ aliases v) :
    ':' ∉ word.toList := by
  have hall : ∀ v, ∀ word ∈ aliases v, ':' ∉ word.toList := by
    intro v
    cases v <;> decide
  exact hall v word h

theorem splitColon_of_not_mem {cs : List Char} (h : ':' ∉ cs) : splitColon cs = (cs, none) := by
  have hall : ∀ c ∈ cs, (c != ':') = true := by
    intro c hc
    simpa using ne_of_mem_of_not_mem hc h
  rw [splitColon, List.takeWhile_eq_self_iff.mpr hall, List.dropWhile_eq_nil_iff.mpr hall]

theorem splitColon_append {word : List Char} (h : ':' ∉ word) (rest : List Char) :
    splitColon (word ++ ':' :: rest) = (word, some rest) := by
  have hall : ∀ c ∈ word, (c != ':') = true := by
    intro c hc
    simpa using ne_of_mem_of_not_mem hc h
  rw [splitColon, List.takeWhile_append_of_pos hall, List.dropWhile_append_of_pos hall]
  simp

/-! ## Reading -/

theorem ofWord_alias {v : Vendor} {word : String} (h : word ∈ aliases v) :
    ofWord word.toList = some (.gpu v 0) := by
  have hall : ∀ v, ∀ word ∈ aliases v, ofWord word.toList = some (.gpu v 0) := by
    intro v
    cases v <;> decide
  exact hall v word h

theorem denotes_of_ofWord {cs : List Char} {spec : Spec} (h : ofWord cs = some spec) :
    Denotes cs spec := by
  unfold ofWord at h
  split at h
  · rename_i hauto
    cases h
    exact hauto ▸ .auto
  · split at h
    · rename_i hhost
      cases h
      simp only [List.mem_cons, List.not_mem_nil, or_false] at hhost
      obtain rfl | rfl := hhost
      · exact .host
      · exact .cpu
    · obtain ⟨v, hv, rfl⟩ := Option.map_eq_some_iff.mp h
      obtain ⟨word, hword, rfl⟩ := vendorOfAlias_eq_some_iff.mp hv
      exact .vendor hword

theorem denotes_of_readPlain {cs : List Char} {spec : Spec} (h : readPlain cs = .ok spec) :
    Denotes cs spec := by
  by_cases hcolon : ':' ∈ cs
  · obtain ⟨word, numeral, rfl, hword⟩ := List.eq_append_cons_of_mem hcolon
    rw [readPlain, splitColon_append hword] at h
    dsimp only at h
    cases hindex : readIndex numeral with
    | error cause => simp [hindex] at h
    | ok index =>
      cases hvendor : vendorOfAlias word with
      | none => simp [hindex, hvendor] at h
      | some v =>
        simp only [hindex, hvendor, Except.ok.injEq] at h
        obtain ⟨name, hname, rfl⟩ := vendorOfAlias_eq_some_iff.mp hvendor
        exact h ▸ .indexed hname (readIndex_eq_ok_iff.mp hindex)
  · rw [readPlain, splitColon_of_not_mem hcolon] at h
    dsimp only at h
    cases hword : ofWord cs with
    | none => simp [hword] at h
    | some found =>
      simp only [hword, Except.ok.injEq] at h
      exact h ▸ denotes_of_ofWord hword

theorem readPlain_of_denotes {cs : List Char} {spec : Spec} (h : Denotes cs spec) :
    readPlain cs = .ok spec := by
  cases h with
  | auto => rfl
  | host => rfl
  | cpu => rfl
  | vendor hword =>
    rw [readPlain, splitColon_of_not_mem (colon_not_mem_alias hword)]
    simp only [ofWord_alias hword]
  | @indexed v word _ _ hword hnumeral =>
    have hindex := readIndex_eq_ok_iff.mpr hnumeral
    have hvendor : vendorOfAlias word.toList = some v :=
      vendorOfAlias_eq_some_iff.mpr ⟨word, hword, rfl⟩
    rw [readPlain, splitColon_append (colon_not_mem_alias hword)]
    simp only [hindex, hvendor]

theorem parse_eq_ok_iff {s : String} {spec : Spec} :
    parse s = .ok spec ↔ Denotes (lower (trim s.toList)) spec := by
  have hread : parse s = .ok spec ↔ readPlain (lower (trim s.toList)) = .ok spec := by
    rw [parse, read]
    cases readPlain (lower (trim s.toList)) <;> simp
  exact hread.trans ⟨denotes_of_readPlain, readPlain_of_denotes⟩

example : parse "\tROCm:+01 " = .ok (.gpu .amd 1) := rfl

theorem vendor_ne_host_of_denotes {cs : List Char} {v : Vendor} {index : UInt64}
    (h : Denotes cs (.gpu v index)) : v ≠ .host := by
  rintro rfl
  cases h with
  | vendor hword => cases hword
  | indexed hword => cases hword

/-! ## Writing -/

def Plain (c : Char) : Prop := c.toNat < 128 ∧ isBlank c = false ∧ c.toLower = c

instance (c : Char) : Decidable (Plain c) := inferInstanceAs (Decidable (_ ∧ _))

theorem forall_plain_of_all {cs : List Char} (h : cs.all (fun c => decide (Plain c)) = true) :
    ∀ c ∈ cs, Plain c := by
  simpa using h

theorem lower_trim_of_plain {cs : List Char} (h : ∀ c ∈ cs, Plain c) : lower (trim cs) = cs := by
  have hmap : cs.map Char.toLower = cs :=
    (List.map_congr_left fun c hc => (h c hc).2.2).trans (List.map_id cs)
  rw [trim_of_forall_not_blank fun c hc => (h c hc).2.1, lower_of_ascii fun c hc => (h c hc).1, hmap]

theorem plain_of_isDigit {c : Char} (h : c.isDigit = true) : Plain c := by
  have hdigits : ∀ n, n < 10 → Plain (Char.ofNat (48 + n)) := by decide
  have hrange := Char.isDigit_iff_toNat.mp h
  simp only [Char.reduceToNat] at hrange
  have hplain := hdigits (c.toNat - 48) (by omega)
  rwa [Nat.add_sub_cancel' hrange.1, Char.ofNat_toNat] at hplain

theorem toList_text_gpu (v : Vendor) (index : UInt64) :
    (gpu v index).text.toList = v.name.toList ++ ':' :: Nat.toDigits 10 index.toNat := by
  simp [text, toString, String.toList_append]

theorem lower_trim_text (spec : Spec) : lower (trim spec.text.toList) = spec.text.toList := by
  apply lower_trim_of_plain
  cases spec with
  | auto => exact forall_plain_of_all (by decide)
  | host => exact forall_plain_of_all (by decide)
  | gpu v index =>
    have hname : ∀ c ∈ v.name.toList, Plain c := by
      apply forall_plain_of_all
      cases v <;> decide
    rw [toList_text_gpu, List.forall_mem_append, List.forall_mem_cons]
    refine ⟨hname, by decide, fun c hc => ?_⟩
    exact plain_of_isDigit (Nat.isDigit_of_mem_toDigits (by decide) (by decide) hc)

theorem parse_text {spec : Spec} (h : ∀ index, spec ≠ .gpu .host index) :
    parse spec.text = .ok spec := by
  rw [parse_eq_ok_iff, lower_trim_text]
  cases spec with
  | auto => exact .auto
  | host => exact .host
  | gpu v index =>
    have hname : v.name ∈ aliases v := by
      cases v with
      | host => exact absurd rfl (h index)
      | amd | nvidia | intel => decide
    rw [toList_text_gpu]
    exact .indexed hname (numeral_toDigits _)

/-! ## Resolving -/

theorem parse_text_device {d : Device} (h : d.isHost = false) :
    parse d.text = .ok (.gpu d.vendor d.index) := by
  have hvendor : d.vendor ≠ .host := by simpa [isHost] using h
  have htext : d.text = (gpu d.vendor d.index).text := by
    rw [Device.text, h]
    rfl
  rw [htext]
  exact parse_text fun index hhost => hvendor (Spec.gpu.inj hhost).1

/-- The first device of a vendor and index in a list. -/
structure First (available : List Device) (v : Vendor) (n : UInt64) (d : Device) : Prop where
  vendor : d.vendor = v
  index : d.index = n
  first : ∃ before after, available = before ++ d :: after ∧
    ∀ other ∈ before, ¬(other.vendor = v ∧ other.index = n)

theorem resolve_gpu_eq_ok_iff {available : List Device} {v : Vendor} {index : UInt64} {d : Device} :
    (gpu v index).resolve available = .ok d ↔ First available v index d := by
  have hfind : (gpu v index).resolve available = .ok d ↔
      available.find? (fun x => x.vendor == v && x.index == index) = some d := by
    rw [resolve]
    cases available.find? fun x => x.vendor == v && x.index == index <;> simp
  rw [hfind, List.find?_eq_some_iff_append]
  simp only [Bool.and_eq_true, beq_iff_eq, Bool.not_eq_true', Bool.and_eq_false_imp,
    beq_eq_false_iff_ne]
  constructor
  · rintro ⟨⟨hvendor, hindex⟩, before, after, havailable, hnone⟩
    exact ⟨hvendor, hindex, before, after, havailable, fun other ho h => hnone other ho h.1 h.2⟩
  · rintro ⟨hvendor, hindex, before, after, havailable, hnone⟩
    exact ⟨⟨hvendor, hindex⟩, before, after, havailable, fun other ho h h' => hnone other ho ⟨h, h'⟩⟩

theorem exists_first {available : List Device} {d : Device} (h : d ∈ available) :
    ∃ found, First available d.vendor d.index found := by
  cases hresolve : (gpu d.vendor d.index).resolve available with
  | ok found => exact ⟨found, resolve_gpu_eq_ok_iff.mp hresolve⟩
  | error e =>
    have hnone : available.find? (fun x => x.vendor == d.vendor && x.index == d.index) = none := by
      rw [resolve] at hresolve
      cases hfind : available.find? fun x => x.vendor == d.vendor && x.index == d.index with
      | none => rfl
      | some found => simp [hfind] at hresolve
    exact absurd (List.find?_eq_none.mp hnone d h) (by simp)

theorem mem_or_host_of_resolve {spec : Spec} {available : List Device} {d : Device}
    (h : spec.resolve available = .ok d) :
    d ∈ available ∨ d = Device.host ∧
      (spec = .host ∨ spec = .auto ∧ ∀ x ∈ available, x.isHost = true) := by
  cases spec with
  | auto =>
    simp only [resolve, Except.ok.injEq] at h
    cases hfind : available.find? fun x => !x.isHost with
    | none =>
      rw [hfind] at h
      refine .inr ⟨h.symm, .inr ⟨rfl, fun x hx => ?_⟩⟩
      simpa using List.find?_eq_none.mp hfind x hx
    | some found =>
      rw [hfind] at h
      exact .inl (h ▸ List.mem_of_find?_eq_some hfind)
  | host => exact .inr ⟨(Except.ok.inj h).symm, .inl rfl⟩
  | gpu v index =>
    obtain ⟨-, -, before, after, rfl, -⟩ := resolve_gpu_eq_ok_iff.mp h
    exact .inl (by simp)

/-- A text is read as the specification that its lowercase form without surrounding blanks denotes,
and as none if it denotes none. Devices of the host vendor are never asked for by index. What is
written for a specification is read as that one again, and other blanks around a text or another
case of its ASCII letters lead to the same. The text of a device in a list, the host apart, resolves
to the first one there with its vendor and index. Only the host itself is ever found outside of a
list, if it is asked for or there is nothing else. -/
theorem specifications_agree :
    (∀ s spec, parse s = .ok spec ↔ Denotes (lower (trim s.toList)) spec) ∧
      (∀ s v index, parse s = .ok (.gpu v index) → v ≠ .host) ∧
      (∀ spec, (∀ index, spec ≠ .gpu .host index) → parse spec.text = .ok spec) ∧
      (∀ s t spec, Restyled s t → (parse t = .ok spec ↔ parse s = .ok spec)) ∧
      (∀ (available : List Device), ∀ d ∈ available, d.isHost = false →
        ∃ spec found, parse d.text = .ok spec ∧ spec.resolve available = .ok found ∧
          First available d.vendor d.index found) ∧
      ∀ (spec : Spec) available d, spec.resolve available = .ok d →
        d ∈ available ∨ d = Device.host ∧
          (spec = .host ∨ spec = .auto ∧ ∀ x ∈ available, x.isHost = true) := by
  refine ⟨fun s spec => parse_eq_ok_iff, ?_, fun spec => parse_text, ?_, ?_, ?_⟩
  · intro s v index h
    exact vendor_ne_host_of_denotes (parse_eq_ok_iff.mp h)
  · intro s t spec hrestyled
    rw [parse_eq_ok_iff, parse_eq_ok_iff, lower_trim_of_restyled hrestyled]
  · intro available d hd hhost
    obtain ⟨found, hfirst⟩ := exists_first hd
    exact ⟨_, found, parse_text_device hhost, resolve_gpu_eq_ok_iff.mpr hfirst, hfirst⟩
  · intro spec available d
    exact mem_or_host_of_resolve

end Offload.Device.Spec
