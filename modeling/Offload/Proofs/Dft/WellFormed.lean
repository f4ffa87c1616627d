import Offload.Proofs.Dft.Run

/-!
# The settings that descriptors come to have

Whatever is set and however commits go, the settings of a descriptor stay well-formed: there are as
many strides as the lengths ask for, and lengths, counts and distances are positive.
`settings_run` carries any property of settings that new values keep over to all runs.
-/

set_option autoImplicit false

namespace Offload.Dft

open Number

namespace Settings

variable {s t : Settings}

def explicitStrides (s : Settings) : Direction → Option (List Int)
  | .forward => s.explicitInputStrides
  | .backward => s.explicitOutputStrides

/-- Lengths and strides fit together, and all that is counted is positive. -/
structure WellFormed (s : Settings) : Prop where
  lengths_ne_nil : s.lengths ≠ []
  lengths_pos : ∀ n ∈ s.lengths, 0 < n
  dense : (denseStrides s.lengths).isSome = true
  explicit : ∀ side strides, s.explicitStrides side = some strides →
    strides.length = s.dimension + 1
  transforms_pos : 0 < s.transforms
  distance_pos : ∀ side, 0 < s.distance side

theorem WellFormed.length_strides (h : s.WellFormed) (side : Direction) :
    (s.strides side).length = s.dimension + 1 := by
  have hgetD : s.strides side = (s.explicitStrides side).getD (defaultStrides s.lengths) := by
    cases side <;> rfl
  rw [hgetD]
  cases he : s.explicitStrides side with
  | none => exact length_defaultStrides s.lengths
  | some strides => exact h.explicit side strides he

theorem wellFormed_initial (precision : Precision) (domain : Domain) {lengths : List Int}
    (hne : lengths ≠ []) (h : checkLengths lengths = .ok ()) :
    (initial precision domain lengths).WellFormed := by
  obtain ⟨hpos, hdense⟩ := checkLengths_eq_ok_iff.1 h
  refine ⟨hne, hpos, hdense, ?_, Int.one_pos, ?_⟩
  · intro side strides he
    cases side <;> cases he
  · intro side
    cases side <;> exact Int.one_pos

/-- What has a single supported value, or cannot be set, has its default. -/
structure Unvaried (s : Settings) : Prop where
  realStorage : s.realStorage = .realReal
  conjugateEvenStorage : s.conjugateEvenStorage = .complexComplex
  ordering : s.ordering = .ordered
  transpose : s.transpose = false
  packedFormat : s.packedFormat = .cceFormat

theorem unvaried_initial (precision : Precision) (domain : Domain) (lengths : List Int) :
    (initial precision domain lengths).Unvaried := ⟨rfl, rfl, rfl, rfl, rfl⟩

/-! ## New values -/

theorem exists_of_map_eq_ok {ε α β : Type} {f : α → β} {x : Except ε α} {b : β}
    (h : x.map f = .ok b) : ∃ a, x = .ok a ∧ f a = b := by
  cases x with
  | error e => cases h
  | ok a => exact ⟨a, rfl, Except.ok.inj h⟩

theorem checkLengths_of_newLengths {v : Value} {lengths : List Int}
    (h : s.newLengths v = .ok lengths) :
    lengths.length = s.dimension ∧ checkLengths lengths = .ok () := by
  have hsized : ∀ given, s.newLengths (.ints given) = .ok lengths →
      lengths.length = s.dimension ∧ checkLengths lengths = .ok () := by
    intro given hgiven
    simp only [newLengths] at hgiven
    by_cases hlength : given.length = s.dimension
    · rw [if_pos hlength] at hgiven
      cases hcheck : checkLengths given with
      | error cause => simp [hcheck] at hgiven
      | ok u =>
        simp only [hcheck, Except.ok.injEq] at hgiven
        subst hgiven
        exact ⟨hlength, hcheck⟩
    · rw [if_neg hlength] at hgiven
      cases hgiven
  cases v with
  | int n =>
    simp only [newLengths] at h
    split at h
    · exact hsized [n] h
    · cases h
  | ints given => exact hsized given h
  | _ => cases h

theorem length_of_newStrides {p : Parameter} {v : Value} {strides : List Int}
    (h : s.newStrides p v = .ok strides) : strides.length = s.dimension + 1 := by
  unfold newStrides at h
  cases v with
  | ints given =>
    dsimp only at h
    split at h
    · rename_i hlength
      rwa [← Except.ok.inj h]
    · cases h
  | _ => cases h

theorem pos_of_positive {p : Parameter} {v : Value} {n : Int} (h : positive p v = .ok n) :
    0 < n := by
  unfold positive at h
  split at h
  · cases h
  · split at h
    · rename_i hpos
      rwa [← Except.ok.inj h]
    · cases h

theorem wellFormed_assign {p : Parameter} {v : Value} (h : s.assign p v = .ok t)
    (hs : s.WellFormed) : t.WellFormed := by
  obtain ⟨hne, hpos, hdense, hexplicit, htransforms, hdistance⟩ := hs
  cases p with
  | lengths =>
    obtain ⟨lengths, hnew, rfl⟩ := exists_of_map_eq_ok h
    obtain ⟨hlength, hcheck⟩ := checkLengths_of_newLengths hnew
    obtain ⟨hpos', hdense'⟩ := checkLengths_eq_ok_iff.1 hcheck
    refine ⟨?_, hpos', hdense', ?_, htransforms, hdistance⟩
    · intro hnil
      have hzero : s.lengths.length = 0 := hlength.symm.trans (congrArg List.length hnil)
      exact hne (List.length_eq_zero_iff.1 hzero)
    · intro side strides he
      exact (hexplicit side strides he).trans (congrArg (· + 1) hlength.symm)
  | inputStrides =>
    obtain ⟨strides, hnew, rfl⟩ := exists_of_map_eq_ok h
    refine ⟨hne, hpos, hdense, ?_, htransforms, hdistance⟩
    intro side given he
    cases side with
    | forward =>
      rw [← Option.some.inj he]
      exact length_of_newStrides hnew
    | backward => exact hexplicit .backward given he
  | outputStrides =>
    obtain ⟨strides, hnew, rfl⟩ := exists_of_map_eq_ok h
    refine ⟨hne, hpos, hdense, ?_, htransforms, hdistance⟩
    intro side given he
    cases side with
    | forward => exact hexplicit .forward given he
    | backward =>
      rw [← Option.some.inj he]
      exact length_of_newStrides hnew
  | numberOfTransforms =>
    obtain ⟨transforms, hnew, rfl⟩ := exists_of_map_eq_ok h
    exact ⟨hne, hpos, hdense, hexplicit, pos_of_positive hnew, hdistance⟩
  | forwardDistance =>
    obtain ⟨distance, hnew, rfl⟩ := exists_of_map_eq_ok h
    refine ⟨hne, hpos, hdense, hexplicit, htransforms, ?_⟩
    intro side
    cases side with
    | forward => exact pos_of_positive hnew
    | backward => exact hdistance .backward
  | backwardDistance =>
    obtain ⟨distance, hnew, rfl⟩ := exists_of_map_eq_ok h
    refine ⟨hne, hpos, hdense, hexplicit, htransforms, ?_⟩
    intro side
    cases side with
    | forward => exact hdistance .forward
    | backward => exact pos_of_positive hnew
  -- What is left enters no condition, or cannot be set.
  | forwardScale | backwardScale | placement | complexStorage | conjugateEvenStorage | workspace
  | ordering | transpose =>
    obtain ⟨new, _, rfl⟩ := exists_of_map_eq_ok h
    exact ⟨hne, hpos, hdense, hexplicit, htransforms, hdistance⟩
  | realStorage | packedFormat | forwardDomain | precision | dimension | commitStatus => cases h

theorem choice_of_chosen {α : Type} {p : Parameter} {v : Value} {meaning : Choice → Option α}
    {a : α} (h : chosen p v meaning = .ok a) : ∃ c, v = .choice c ∧ meaning c = some a := by
  unfold chosen at h
  cases v with
  | choice c =>
    dsimp only [Value.asChoice] at h
    cases hc : meaning c with
    | none =>
      rw [hc] at h
      cases h
    | some found =>
      rw [hc] at h
      exact ⟨c, rfl, by rw [hc, Except.ok.inj h]⟩
  | _ => cases h

theorem eq_ordered_of_newOrdering {v : Value} {ordering : Choice}
    (h : newOrdering v = .ok ordering) : v = .choice .ordered ∧ ordering = .ordered := by
  unfold newOrdering at h
  cases v with
  | choice c =>
    cases c <;> cases h
    exact ⟨rfl, rfl⟩
  | _ => cases h

theorem eq_false_of_newTranspose {v : Value} {transpose : Bool}
    (h : newTranspose v = .ok transpose) : v = .bool false ∧ transpose = false := by
  unfold newTranspose at h
  cases v with
  | bool b =>
    cases b <;> cases h
    exact ⟨rfl, rfl⟩
  | _ => cases h

theorem unvaried_assign {p : Parameter} {v : Value} (h : s.assign p v = .ok t)
    (hs : s.Unvaried) : t.Unvaried := by
  obtain ⟨hreal, hconjugate, hordering, htranspose, hpacked⟩ := hs
  cases p with
  | conjugateEvenStorage =>
    obtain ⟨new, hnew, rfl⟩ := exists_of_map_eq_ok h
    obtain ⟨c, -, hc⟩ := choice_of_chosen hnew
    split at hc
    · rename_i hcomplex
      cases hc
      exact ⟨hreal, hcomplex, hordering, htranspose, hpacked⟩
    · cases hc
  | ordering =>
    obtain ⟨new, hnew, rfl⟩ := exists_of_map_eq_ok h
    exact ⟨hreal, hconjugate, (eq_ordered_of_newOrdering hnew).2, htranspose, hpacked⟩
  | transpose =>
    obtain ⟨new, hnew, rfl⟩ := exists_of_map_eq_ok h
    exact ⟨hreal, hconjugate, hordering, (eq_false_of_newTranspose hnew).2, hpacked⟩
  | lengths | inputStrides | outputStrides | forwardScale | backwardScale | numberOfTransforms
  | forwardDistance | backwardDistance | placement | complexStorage | workspace =>
    obtain ⟨new, _, rfl⟩ := exists_of_map_eq_ok h
    exact ⟨hreal, hconjugate, hordering, htranspose, hpacked⟩
  | realStorage | packedFormat | forwardDomain | precision | dimension | commitStatus => cases h

end Settings

/-! ## Runs -/

variable {ω π : Type}

namespace Descriptor

theorem settings_set [Plan ω π] (d : Descriptor π) (p : Parameter) (v : Value) (w : ω) :
    (d.set p v w).2.1.settings = d.settings ∨
      d.settings.assign p v = .ok (d.set p v w).2.1.settings := by
  cases h : (d.set p v w).1 with
  | error e => exact .inl (by rw [descriptor_set_of_error h])
  | ok u => exact .inr (assign_of_set h)

theorem settings_commit (registry : Registry (Backend ω π)) (d : Descriptor π) (queue : Queue)
    (w : ω) : (d.commit registry queue w).2.1.settings = d.settings := by
  rcases d.commit_cases registry queue w with ⟨_, _, h⟩ |
    ⟨_, ⟨_, _, h⟩ | ⟨_, _, ⟨_, _, _, h⟩ | ⟨_, _, _, h⟩⟩⟩ <;> rw [h]

end Descriptor

namespace System

variable [Plan ω π]

theorem settings_run {P : Settings → Prop}
    (assign_keeps : ∀ s t p v, s.assign p v = .ok t → P s → P t) {s : System ω π}
    (h : P s.descriptor.settings) (calls : List (Call ω π)) :
    P (s.run calls).descriptor.settings := by
  refine descriptor_induction (P := fun d => P d.settings) ?_ ?_ h calls
  · intro d p v w hd
    rcases d.settings_set p v w with hsame | hnew
    · exact hsame ▸ hd
    · exact assign_keeps _ _ p v hnew hd
  · intro registry d queue w hd
    exact (Descriptor.settings_commit registry d queue w) ▸ hd

omit [Plan ω π] in
theorem wellFormed_of_fresh {s : System ω π} (h : s.Fresh) : s.descriptor.settings.WellFormed := by
  obtain ⟨precision, domain, lengths, h⟩ := h
  obtain ⟨hne, hcheck, hstart⟩ := Descriptor.new_eq_ok_iff.1 h
  rw [hstart]
  exact Settings.wellFormed_initial precision domain hne hcheck

theorem wellFormed_run {s : System ω π} (h : s.Fresh) (calls : List (Call ω π)) :
    (s.run calls).descriptor.settings.WellFormed :=
  settings_run (fun _ _ _ _ hassign hs => Settings.wellFormed_assign hassign hs)
    (wellFormed_of_fresh h) calls

theorem unvaried_run {s : System ω π} (h : s.Fresh) (calls : List (Call ω π)) :
    (s.run calls).descriptor.settings.Unvaried := by
  obtain ⟨precision, domain, lengths, h⟩ := h
  obtain ⟨-, -, hstart⟩ := Descriptor.new_eq_ok_iff.1 h
  refine settings_run (fun _ _ _ _ hassign hs => Settings.unvaried_assign hassign hs) ?_ calls
  rw [hstart]
  exact Settings.unvaried_initial precision domain lengths

end System

end Offload.Dft
