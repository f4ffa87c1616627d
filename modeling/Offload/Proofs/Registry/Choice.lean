import Mathlib.Data.List.Nodup
import Offload.Proofs.Registry.History

/-!
# Which backend serves a device

A backend is chosen by its name, and the backend of that name is then looked up. This comes to the
right one because names are unique in every registry that calls have made. `choose_cases` says all
that can come of a choice of a name. `served_iff_admitted` says when a device is served, what by,
how it fails to be, and which changes of the registry leave that as it is.
-/

set_option autoImplicit false

namespace Offload

namespace Registry

variable {β : Type} [Served β]

/-! ## What decides a choice -/

/-- The backends that support a device, in order of precedence. -/
def supporting (r : Registry β) (device : Device) : List β :=
  r.backends.filter fun b => Served.supports b device

def meets (request : String) (b : β) : Bool :=
  Text.equalsIgnoringAsciiCase (Served.name b) request

/-- The first supporting backend that meets the request, or else the first one. -/
def preferred (r : Registry β) (device : Device) : Option β :=
  match r.preference.backend with
  | none => (r.supporting device).head?
  | some request => ((r.supporting device).find? (meets request)).or (r.supporting device).head?

def Unmet (r : Registry β) (device : Device) : Prop :=
  r.strict = true ∧ ∃ request, r.preference.backend = some request ∧
    ∀ b ∈ r.supporting device, meets request b = false

variable {r : Registry β} {device : Device} {b : β}

theorem mem_supporting :
    b ∈ r.supporting device ↔ b ∈ r.backends ∧ Served.supports b device = true := by
  rw [supporting, List.mem_filter]

theorem mem_supporting_of_preferred (h : r.preferred device = some b) :
    b ∈ r.supporting device := by
  unfold preferred at h
  cases hrequest : r.preference.backend with
  | none =>
    rw [hrequest] at h
    exact List.mem_of_head? h
  | some request =>
    rw [hrequest] at h
    cases hfound : (r.supporting device).find? (meets request) with
    | some found =>
      simp only [hfound, Option.some_or, Option.some.injEq] at h
      subst h
      exact List.mem_of_find?_eq_some hfound
    | none =>
      simp only [hfound, Option.none_or] at h
      exact List.mem_of_head? h

theorem supporting_eq_nil_of_preferred (h : r.preferred device = none) :
    r.supporting device = [] := by
  unfold preferred at h
  cases hrequest : r.preference.backend with
  | none =>
    rw [hrequest] at h
    exact List.head?_eq_none_iff.mp h
  | some request =>
    rw [hrequest] at h
    exact List.head?_eq_none_iff.mp (Option.or_eq_none_iff.mp h).2

theorem capable_candidates (r : Registry β) (device : Device) :
    Selection.capable (r.candidates device) = (r.supporting device).map Served.name := by
  simp only [Selection.capable, candidates, supporting, List.filter_map, List.map_map,
    Function.comp_def]

/-- The name that is picked is that of the preferred backend, and a request that is strict and unmet
is an error instead. -/
theorem pick_cases (r : Registry β) (device : Device) :
    (r.Unmet device ∧ ∃ text, Selection.pick r.domain device r.preference.backend r.strict
      ((r.supporting device).map Served.name) = .error (.config text)) ∨
    (¬r.Unmet device ∧ ∃ rationale, Selection.pick r.domain device r.preference.backend r.strict
      ((r.supporting device).map Served.name) =
        .ok ((r.preferred device).map Served.name, rationale)) := by
  unfold Unmet preferred Selection.pick
  cases hrequest : r.preference.backend with
  | none =>
    refine Or.inr ⟨?_, "first registered backend supporting the device", ?_⟩
    · rintro ⟨-, request, hsome, -⟩
      cases hsome
    · rw [List.head?_map]
  | some request =>
    have hfind : ((r.supporting device).map Served.name).find?
        (fun d => Text.equalsIgnoringAsciiCase d request) =
          ((r.supporting device).find? (meets request)).map Served.name := List.find?_map
    dsimp only
    rw [hfind]
    cases hfound : (r.supporting device).find? (meets request) with
    | some found =>
      refine Or.inr ⟨?_, _, rfl⟩
      rintro ⟨-, other, hsome, hnone⟩
      have hother : request = other := Option.some.inj hsome
      have hmet := List.find?_some hfound
      rw [hother, hnone found (List.mem_of_find?_eq_some hfound)] at hmet
      cases hmet
    | none =>
      have hnone : ∀ b ∈ r.supporting device, meets request b = false := by
        intro b hb
        exact Bool.eq_false_iff.mpr (List.find?_eq_none.mp hfound b hb)
      cases hstrict : r.strict with
      | true => exact Or.inl ⟨⟨rfl, request, rfl, hnone⟩, _, rfl⟩
      | false =>
        refine Or.inr ⟨?_, s!"{request} requested but cannot serve {device.text}; falling back", ?_⟩
        · rintro ⟨hstrict, -⟩
          cases hstrict
        · rw [List.head?_map]
          rfl

theorem choose_cases (r : Registry β) (device : Device) :
    (r.Unmet device ∧ ∃ text, Selection.choose r.domain device r.preference.backend r.strict
      (r.candidates device) = .error (.config text)) ∨
    (¬r.Unmet device ∧ r.supporting device = [] ∧
      Selection.choose r.domain device r.preference.backend r.strict (r.candidates device) =
        .error (.backendUnavailable r.domain device.text)) ∨
    (¬r.Unmet device ∧ ∃ b rationale, r.preferred device = some b ∧
      Selection.choose r.domain device r.preference.backend r.strict (r.candidates device) =
        .ok ⟨r.domain, device.text, r.preference.backend,
          (r.supporting device).map Served.name, Served.name b, rationale⟩) := by
  unfold Selection.choose
  rw [capable_candidates]
  rcases r.pick_cases device with ⟨hunmet, text, hpick⟩ | ⟨hmet, rationale, hpick⟩
  · refine Or.inl ⟨hunmet, text, ?_⟩
    simp only [hpick]
  · right
    cases hpreferred : r.preferred device with
    | none =>
      refine Or.inl ⟨hmet, supporting_eq_nil_of_preferred hpreferred, ?_⟩
      simp only [hpick, hpreferred, Option.map_none]
    | some b =>
      refine Or.inr ⟨hmet, b, rationale, rfl, ?_⟩
      simp only [hpick, hpreferred, Option.map_some]

/-! ## Looking up the chosen name -/

theorem get?_name_of_mem (h : r.names.Nodup) (hb : b ∈ r.backends) :
    r.get? (Served.name b) = some b := by
  cases hfound : r.get? (Served.name b) with
  | none =>
    have hno := List.find?_eq_none.mp hfound b hb
    simp at hno
  | some other =>
    have hname : Served.name other = Served.name b := by simpa using List.find?_some hfound
    have hother : other ∈ r.backends := List.mem_of_find?_eq_some hfound
    rw [List.inj_on_of_nodup_map h hother hb hname]

theorem get?_name_of_preferred (h : r.names.Nodup) (hb : r.preferred device = some b) :
    r.get? (Served.name b) = some b :=
  get?_name_of_mem h (mem_supporting.mp (mem_supporting_of_preferred hb)).1

theorem select_cases (h : r.names.Nodup) (device : Device) :
    ((r.preference.enabled = false ∨ r.Unmet device) ∧
      ∃ text, r.select device = .error (.config text)) ∨
    ((r.preference.enabled = true ∧ ¬r.Unmet device) ∧ r.supporting device = [] ∧
      r.select device = .error (.backendUnavailable r.domain device.text)) ∨
    ((r.preference.enabled = true ∧ ¬r.Unmet device) ∧ ∃ b rationale,
      r.preferred device = some b ∧
      r.select device = .ok (b, ⟨r.domain, device.text, r.preference.backend,
        (r.supporting device).map Served.name, Served.name b, rationale⟩)) := by
  unfold select
  cases henabled : r.preference.enabled with
  | false => exact Or.inl ⟨Or.inl rfl, _, rfl⟩
  | true =>
    rw [if_neg (by decide)]
    rcases r.choose_cases device with ⟨hunmet, text, hchoose⟩ | ⟨hmet, hnone, hchoose⟩ |
      ⟨hmet, b, rationale, hpreferred, hchoose⟩
    · exact Or.inl ⟨Or.inr hunmet, text, by rw [hchoose]⟩
    · exact Or.inr (Or.inl ⟨⟨rfl, hmet⟩, hnone, by rw [hchoose]⟩)
    · refine Or.inr (Or.inr ⟨⟨rfl, hmet⟩, b, rationale, hpreferred, ?_⟩)
      rw [hchoose]
      dsimp only
      rw [get?_name_of_preferred h hpreferred]

/-! ## Changes that do not matter to a device -/

/-- A selection depends on the settings and the supporting backends alone. -/
theorem select_congr {s : Registry β} (hr : r.names.Nodup) (hs : s.names.Nodup)
    (hdomain : s.domain = r.domain) (hpreference : s.preference = r.preference)
    (hstrict : s.strict = r.strict) (hsupporting : s.supporting device = r.supporting device) :
    s.select device = r.select device := by
  have hpreferred : s.preferred device = r.preferred device := by
    unfold preferred
    rw [hpreference, hsupporting]
  have hchoose : Selection.choose s.domain device s.preference.backend s.strict
      (s.candidates device) =
        Selection.choose r.domain device r.preference.backend r.strict (r.candidates device) := by
    unfold Selection.choose
    rw [capable_candidates, capable_candidates, hsupporting, hdomain, hpreference, hstrict]
  unfold select
  rw [hchoose, hpreference, hdomain]
  rcases r.choose_cases device with ⟨-, text, hr'⟩ | ⟨-, -, hr'⟩ | ⟨-, b, rationale, hb, hr'⟩
  · rw [hr']
  · rw [hr']
  · rw [hr']
    dsimp only
    rw [get?_name_of_preferred hr hb, get?_name_of_preferred hs (hpreferred.trans hb)]

theorem supporting_register (hfresh : Served.name b ∉ r.names)
    (hb : Served.supports b device = false) :
    (r.register b).supporting device = r.supporting device := by
  have hkept : r.backends.filter (fun other => Served.name other != Served.name b) =
      r.backends := by
    rw [List.filter_eq_self]
    intro other hother
    rw [bne_iff_ne]
    intro hname
    exact hfresh (List.mem_map.mpr ⟨other, hother, hname⟩)
  rw [supporting, register, hkept, List.filter_cons_of_neg (by simp [hb]), supporting]

theorem supporting_unregister (h : r.names.Nodup) {name : String}
    (hname : ∀ b, r.get? name = some b → Served.supports b device = false) :
    (r.unregister name).supporting device = r.supporting device := by
  rw [supporting, unregister, List.filter_filter, supporting]
  apply List.filter_congr
  intro b hb
  cases hsupports : Served.supports b device with
  | false => rfl
  | true =>
    have hne : Served.name b ≠ name := by
      rintro rfl
      have hfalse := hname b (get?_name_of_mem h hb)
      rw [hsupports] at hfalse
      cases hfalse
    simp [hne]

/-! ## Selection in registries that calls made -/

/-- What it takes for a device to be served. -/
structure Admits (r : Registry β) (device : Device) : Prop where
  enabled : r.preference.enabled = true
  supported : ∃ b ∈ r.backends, Served.supports b device = true
  met : r.strict = true → ∀ request, r.preference.backend = some request →
    ∃ b ∈ r.backends, Served.supports b device = true ∧ meets request b = true

theorem not_unmet_iff :
    ¬r.Unmet device ↔ (r.strict = true → ∀ request, r.preference.backend = some request →
      ∃ b ∈ r.backends, Served.supports b device = true ∧ meets request b = true) := by
  constructor
  · intro hmet hstrict request hrequest
    by_contra hnone
    refine hmet ⟨hstrict, request, hrequest, ?_⟩
    intro b hb
    obtain ⟨hmem, hsupports⟩ := mem_supporting.mp hb
    rw [Bool.eq_false_iff]
    intro hmeets
    exact hnone ⟨b, hmem, hsupports, hmeets⟩
  · rintro hmet ⟨hstrict, request, hrequest, hnone⟩
    obtain ⟨b, hmem, hsupports, hmeets⟩ := hmet hstrict request hrequest
    rw [hnone b (mem_supporting.mpr ⟨hmem, hsupports⟩)] at hmeets
    cases hmeets

theorem admits_iff :
    r.Admits device ↔
      r.preference.enabled = true ∧ r.supporting device ≠ [] ∧ ¬r.Unmet device := by
  have hsupported : (∃ b ∈ r.backends, Served.supports b device = true) ↔
      r.supporting device ≠ [] := by
    constructor
    · rintro ⟨b, hb⟩
      exact List.ne_nil_of_mem (mem_supporting.mpr hb)
    · intro hne
      obtain ⟨b, hb⟩ := List.exists_mem_of_ne_nil _ hne
      exact ⟨b, mem_supporting.mp hb⟩
  rw [not_unmet_iff, ← hsupported]
  constructor
  · rintro ⟨henabled, hsupports, hmet⟩
    exact ⟨henabled, hsupports, hmet⟩
  · rintro ⟨henabled, hsupports, hmet⟩
    exact ⟨henabled, hsupports, hmet⟩

theorem exists_select_iff (h : r.names.Nodup) :
    (∃ b selection, r.select device = .ok (b, selection)) ↔ r.Admits device := by
  rw [admits_iff]
  rcases select_cases h device with ⟨hruled, text, hselect⟩ | ⟨-, hnone, hselect⟩ |
    ⟨⟨henabled, hmet⟩, b, rationale, hb, hselect⟩
  · rcases hruled with hdisabled | hunmet
    · simp [hselect, hdisabled]
    · simp [hselect, hunmet]
  · simp [hselect, hnone]
  · have hsupporting := List.ne_nil_of_mem (mem_supporting_of_preferred hb)
    simp [hselect, henabled, hmet, hsupporting]

theorem preferred_of_select (h : r.names.Nodup) {selection : Selection}
    (hselected : r.select device = .ok (b, selection)) :
    r.preferred device = some b ∧ selection.selected = Served.name b ∧
      selection.detected = (r.supporting device).map Served.name := by
  rcases select_cases h device with ⟨-, text, hselect⟩ | ⟨-, -, hselect⟩ |
    ⟨-, found, rationale, hfound, hselect⟩
  · rw [hselect] at hselected
    cases hselected
  · rw [hselect] at hselected
    cases hselected
  · rw [hselect] at hselected
    obtain ⟨rfl, rfl⟩ := Prod.mk.inj (Except.ok.inj hselected)
    exact ⟨hfound, rfl, rfl⟩

theorem error_of_select (h : r.names.Nodup) {e : Error} (hfailed : r.select device = .error e) :
    ((∃ text, e = .config text) ↔ r.preference.enabled = false ∨ r.Unmet device) ∧
      ((∀ text, e ≠ .config text) → e = .backendUnavailable r.domain device.text) := by
  rcases select_cases h device with ⟨hruled, text, hselect⟩ |
    ⟨⟨henabled, hmet⟩, -, hselect⟩ | ⟨-, found, rationale, -, hselect⟩
  · rw [hselect] at hfailed
    cases hfailed
    exact ⟨iff_of_true ⟨text, rfl⟩ hruled, fun hother => absurd rfl (hother text)⟩
  · rw [hselect] at hfailed
    cases hfailed
    simp [henabled, hmet]
  · rw [hselect] at hfailed
    cases hfailed

/-- Whatever name is chosen, a backend is found under it. -/
theorem exists_get?_of_choose (h : r.names.Nodup) {selection : Selection}
    (hchosen : Selection.choose r.domain device r.preference.backend r.strict
      (r.candidates device) = .ok selection) : ∃ b, r.get? selection.selected = some b := by
  rcases r.choose_cases device with ⟨-, text, hchoose⟩ | ⟨-, -, hchoose⟩ |
    ⟨-, b, rationale, hb, hchoose⟩
  · rw [hchoose] at hchosen
    cases hchosen
  · rw [hchoose] at hchosen
    cases hchosen
  · rw [hchoose] at hchosen
    cases hchosen
    exact ⟨b, get?_name_of_preferred h hb⟩

/-- A device is served just when its domain is enabled, a backend supports it, and a strict request
is met. It is served by the first supporting backend that meets the request, or else the first one,
and the selection reports this name out of those of all supporting backends. Otherwise the
configuration is at fault if the domain is disabled or a strict request is unmet, and else no
backend is available. The name that was chosen always stands for a backend, and backends that do not
support the device can come under new names and go without changing the selection. -/
theorem served_iff_admitted (domain : String) (changes : List (Change β)) (device : Device) :
    let r := (empty domain : Registry β).run changes
    ((∃ b selection, r.select device = .ok (b, selection)) ↔ r.Admits device) ∧
    (∀ b selection, r.select device = .ok (b, selection) →
      (b ∈ r.backends ∧ Served.supports b device = true) ∧ r.preferred device = some b ∧
        selection.selected = Served.name b ∧
        selection.detected = (r.supporting device).map Served.name) ∧
    (∀ e, r.select device = .error e →
      ((∃ text, e = .config text) ↔ r.preference.enabled = false ∨ r.Unmet device) ∧
        ((∀ text, e ≠ .config text) → e = .backendUnavailable domain device.text)) ∧
    (∀ selection, Selection.choose r.domain device r.preference.backend r.strict
        (r.candidates device) = .ok selection → ∃ b, r.get? selection.selected = some b) ∧
    (∀ b, Served.name b ∉ r.names → Served.supports b device = false →
      (r.register b).select device = r.select device) ∧
    ∀ name, (∀ b, r.get? name = some b → Served.supports b device = false) →
      (r.unregister name).select device = r.select device := by
  intro r
  have hr : Reflects changes r := reflects_run domain changes
  have hdomain : r.domain = domain := domain_run (empty domain) changes
  refine ⟨exists_select_iff hr.nodup, ?_, ?_, ?_, ?_, ?_⟩
  · intro b selection hselected
    have hpreferred := preferred_of_select hr.nodup hselected
    exact ⟨mem_supporting.mp (mem_supporting_of_preferred hpreferred.1), hpreferred⟩
  · intro e hfailed
    rw [← hdomain]
    exact error_of_select hr.nodup hfailed
  · intro selection hchosen
    exact exists_get?_of_choose hr.nodup hchosen
  · intro b hfresh hb
    exact select_congr hr.nodup (reflects_register hr b).nodup rfl rfl rfl
      (supporting_register hfresh hb)
  · intro name hname
    exact select_congr hr.nodup (reflects_unregister hr name).nodup rfl rfl rfl
      (supporting_unregister hr.nodup hname)

end Registry

end Offload
