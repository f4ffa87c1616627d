import Offload.Registry

/-!
# Registries whose backends are changed

To learn what backends were asked, they are replaced by ones that keep a record. A registry of
changed backends serves a device just as before if the change keeps the names and the devices:
`backendFor_map`. What a registry hands out is one of its backends: `mem_of_backendFor`.
-/

set_option autoImplicit false

namespace Offload

namespace Registry

variable {β γ : Type}

/-- The registry with every backend changed. -/
def map (f : β → γ) (r : Registry β) : Registry γ :=
  ⟨r.domain, r.backends.map f, r.preference, r.strict⟩

variable [Served β] [Served γ] {f : β → γ}

theorem register_map (hname : ∀ b, Served.name (f b) = Served.name b) (r : Registry β) (b : β) :
    (r.map f).register (f b) = (r.register b).map f := by
  simp only [register, map, List.filter_map, List.map_cons]
  congr 4
  funext other
  simp [hname]

theorem unregister_map (hname : ∀ b, Served.name (f b) = Served.name b) (r : Registry β)
    (name : String) : (r.map f).unregister name = (r.unregister name).map f := by
  simp only [unregister, map, List.filter_map]
  congr 3
  funext b
  simp [hname]

theorem backendFor_map (hname : ∀ b, Served.name (f b) = Served.name b)
    (hsupports : ∀ b device, Served.supports (f b) device = Served.supports b device)
    (r : Registry β) (device : Device) :
    (r.map f).backendFor device = (r.backendFor device).map f := by
  have hcandidates : (r.map f).candidates device = r.candidates device := by
    simp [candidates, map, hname, hsupports, Function.comp_def]
  have hget : ∀ name, (r.map f).get? name = (r.get? name).map f := by
    intro name
    simp only [get?, map, List.find?_map, Function.comp_def, hname]
  have hpreference : (r.map f).preference = r.preference := rfl
  simp only [backendFor, select, hcandidates, hget, hpreference]
  split
  · rfl
  · simp only [map]
    cases Selection.choose r.domain device r.preference.backend r.strict (r.candidates device) with
    | error e => rfl
    | ok selection =>
      dsimp only
      cases r.get? selection.selected <;> rfl

variable {r : Registry β} {device : Device} {b : β}

theorem backendFor_eq_ok_iff :
    r.backendFor device = .ok b ↔ ∃ selection, r.select device = .ok (b, selection) := by
  unfold backendFor
  cases r.select device with
  | error e => simp [Except.map]
  | ok chosen =>
    obtain ⟨found, selection⟩ := chosen
    simp [Except.map]

theorem backendFor_eq_error_iff {e : Error} :
    r.backendFor device = .error e ↔ r.select device = .error e := by
  unfold backendFor
  cases r.select device with
  | error found => simp [Except.map]
  | ok chosen => simp [Except.map]

theorem mem_of_backendFor (h : r.backendFor device = .ok b) : b ∈ r.backends := by
  unfold backendFor select at h
  split at h
  · cases h
  · cases hchosen : Selection.choose r.domain device r.preference.backend r.strict
        (r.candidates device) with
    | error e =>
      rw [hchosen] at h
      cases h
    | ok selection =>
      rw [hchosen] at h
      cases hfound : r.get? selection.selected with
      | none =>
        simp only [hfound] at h
        cases h
      | some found =>
        simp only [hfound, Except.map, Except.ok.injEq] at h
        rw [← h]
        exact List.mem_of_find?_eq_some hfound

end Registry

end Offload
