import Mathlib.Logic.Function.Basic
import Offload.Proofs.Dft.Scale

/-!
# What parameters read as

A parameter reads as the value that it was last given with success, in the form in which it keeps
that value (`Parameter.Keeps`), or else as its default. Only strides have no default of their own:
until they are given, they follow the lengths. `Settings.held` leaves that out, so that a new value
is an update of one entry of it (`held_assign`), two updates of different entries commute, and
settings with the same entries are the same (`eq_of_held`). `reads_last_given` carries this over to
all runs.
-/

set_option autoImplicit false

namespace Offload.Dft

open Number

/-! ## The forms in which values are kept -/

/-- The number that a value stands for. An integer stands for the number that it is rounded to. -/
def Value.Denotes : Value → Double → Prop
  | .real x, y => y = x
  | .int n, y => y.RoundsTo (n < 0) n
  | _, _ => False

theorem Value.denotes_of_asReal {v : Value} {x : Double} (h : v.asReal = some x) : v.Denotes x := by
  cases v with
  | real y => exact (Option.some.inj h).symm
  | int n =>
    cases h
    exact Binary.roundsTo_ofInt Format.regular_double n
  | _ => cases h

/-- How a parameter keeps a value. One length does for a list of it, and a scale is rounded to the
precision of the descriptor. -/
def Parameter.Keeps (precision : Precision) : Parameter → Value → Value → Prop
  | .lengths, .int n, kept => kept = .ints [n]
  | .forwardScale, v, kept | .backwardScale, v, kept =>
    ∃ x y, v.Denotes x ∧ precision.Nearest x y ∧ kept = .real y
  | _, v, kept => kept = v

def Parameter.coerce (precision : Precision) : Parameter → Value → Value
  | .lengths, .int n => .ints [n]
  | .forwardScale, v | .backwardScale, v =>
    match v.asReal with
    | some x => .real (precision.round x)
    | none => v
  | _, v => v

/-- What a parameter reads as before it is given a value, while the descriptor has the current
lengths. -/
def Parameter.unset (precision : Precision) (domain : Domain) (lengths current : List Int) :
    Parameter → Value
  | .forwardDomain => .domain domain
  | .precision => .precision precision
  | .dimension => .int lengths.length
  | .lengths => .ints lengths
  | .forwardScale | .backwardScale => .real Double.one
  | .numberOfTransforms | .forwardDistance | .backwardDistance => .int 1
  | .placement => .choice .inPlace
  | .complexStorage | .conjugateEvenStorage => .choice .complexComplex
  | .realStorage => .choice .realReal
  | .inputStrides | .outputStrides => .ints (defaultStrides current)
  | .workspace => .choice .allow
  | .ordering => .choice .ordered
  | .transpose => .bool false
  | .packedFormat => .choice .cceFormat
  | .commitStatus => .choice .uncommitted

theorem Parameter.keeps_coerce {precision : Precision} {p : Parameter} {v : Value}
    (hscale : ∀ direction : Direction, p = direction.scaleParameter →
      ∃ x, v.asReal = some x ∧ x.isFinite = true) :
    p.Keeps precision v (p.coerce precision v) := by
  have hnearest : ∀ direction : Direction, p = direction.scaleParameter →
      ∃ x y, v.Denotes x ∧ precision.Nearest x y ∧ p.coerce precision v = .real y := by
    rintro direction rfl
    obtain ⟨x, hx, hfinite⟩ := hscale direction rfl
    refine ⟨x, precision.round x, Value.denotes_of_asReal hx, precision.nearest_round hfinite, ?_⟩
    cases direction <;> simp only [Direction.scaleParameter, coerce, hx]
  cases p with
  | lengths => cases v <;> rfl
  | forwardScale => exact hnearest .forward rfl
  | backwardScale => exact hnearest .backward rfl
  | _ => rfl

theorem eq_of_positive {p : Parameter} {v : Value} {n : Int} (h : positive p v = .ok n) :
    v = .int n := by
  unfold positive at h
  cases v with
  | int given =>
    dsimp only [Value.asInt] at h
    split at h
    · rw [Except.ok.inj h]
    · cases h
  | _ => cases h

theorem Placement.choice_injective : Function.Injective Placement.choice := by
  intro x y h
  rw [← Option.some_inj, ← Placement.ofChoice_choice, h, Placement.ofChoice_choice]

theorem Storage.choice_injective : Function.Injective Storage.choice := by
  intro x y h
  rw [← Option.some_inj, ← Storage.ofChoice_choice, h, Storage.ofChoice_choice]

theorem Workspace.choice_injective : Function.Injective Workspace.choice := by
  intro x y h
  rw [← Option.some_inj, ← Workspace.ofChoice_choice, h, Workspace.ofChoice_choice]

namespace Settings

variable {s t u : Settings} {p q : Parameter} {v : Value}

theorem eq_of_newStrides {strides : List Int} (h : s.newStrides p v = .ok strides) :
    v = .ints strides := by
  unfold newStrides at h
  cases v with
  | ints given =>
    dsimp only at h
    split at h
    · rw [Except.ok.inj h]
    · cases h
  | _ => cases h

theorem coerce_of_newLengths {precision : Precision} {lengths : List Int}
    (h : s.newLengths v = .ok lengths) : Parameter.lengths.coerce precision v = .ints lengths := by
  have hints : ∀ given, s.newLengths (.ints given) = .ok lengths → given = lengths := by
    intro given hgiven
    simp only [newLengths] at hgiven
    split at hgiven
    · cases hcheck : checkLengths given with
      | error cause =>
        rw [hcheck] at hgiven
        cases hgiven
      | ok u =>
        rw [hcheck] at hgiven
        exact Except.ok.inj hgiven
    · cases hgiven
  cases v with
  | ints given => exact congrArg Value.ints (hints given h)
  | int n =>
    -- One integer is taken like the list of it.
    have hlist : s.newLengths (.ints [n]) = .ok lengths := by
      simp only [newLengths] at h
      split at h
      · exact h
      · cases h
    exact congrArg Value.ints (hints [n] hlist)
  | _ => cases h

/-! ## What settings hold -/

def held (s : Settings) : Parameter → Option Value
  | .inputStrides => s.explicitInputStrides.map Value.ints
  | .outputStrides => s.explicitOutputStrides.map Value.ints
  | p => some (s.get false p)

theorem get_eq_held (committed : Bool) (hp : p ≠ .commitStatus) :
    s.get committed p = (s.held p).getD (.ints (defaultStrides s.lengths)) := by
  cases p with
  | commitStatus => exact absurd rfl hp
  | inputStrides =>
    simp only [get, held, inputStrides]
    cases s.explicitInputStrides <;> rfl
  | outputStrides =>
    simp only [get, held, outputStrides]
    cases s.explicitOutputStrides <;> rfl
  | _ => rfl

theorem unset_eq_held (precision : Precision) (domain : Domain) (lengths current : List Int)
    (p : Parameter) :
    p.unset precision domain lengths current =
      ((initial precision domain lengths).held p).getD (.ints (defaultStrides current)) := by
  cases p <;> rfl

theorem strides_of_held_eq_none (h : s.held p = none) : p = .inputStrides ∨ p = .outputStrides := by
  cases p with
  | inputStrides => exact .inl rfl
  | outputStrides => exact .inr rfl
  | _ => cases h

/-- Nothing of the settings is left out of what they hold. -/
theorem eq_of_held (h : s.held = t.held) : s = t := by
  have hp (p : Parameter) : s.held p = t.held p := congrFun h p
  have hints : Function.Injective (Option.map Value.ints) :=
    Option.map_injective fun _ _ hvalue => Value.ints.inj hvalue
  have hprecision := Value.precision.inj (Option.some.inj (hp .precision))
  have hdomain := Value.domain.inj (Option.some.inj (hp .forwardDomain))
  have hlengths := Value.ints.inj (Option.some.inj (hp .lengths))
  have hforward := Value.real.inj (Option.some.inj (hp .forwardScale))
  have hbackward := Value.real.inj (Option.some.inj (hp .backwardScale))
  have htransforms := Value.int.inj (Option.some.inj (hp .numberOfTransforms))
  have hforwardDistance := Value.int.inj (Option.some.inj (hp .forwardDistance))
  have hbackwardDistance := Value.int.inj (Option.some.inj (hp .backwardDistance))
  have hplacement := Placement.choice_injective
    (Value.choice.inj (Option.some.inj (hp .placement)))
  have hstorage := Storage.choice_injective
    (Value.choice.inj (Option.some.inj (hp .complexStorage)))
  have hworkspace := Workspace.choice_injective
    (Value.choice.inj (Option.some.inj (hp .workspace)))
  have hrealStorage := Value.choice.inj (Option.some.inj (hp .realStorage))
  have hconjugateEven := Value.choice.inj (Option.some.inj (hp .conjugateEvenStorage))
  have hordering := Value.choice.inj (Option.some.inj (hp .ordering))
  have htranspose := Value.bool.inj (Option.some.inj (hp .transpose))
  have hpacked := Value.choice.inj (Option.some.inj (hp .packedFormat))
  have hinput : s.explicitInputStrides = t.explicitInputStrides := hints (hp .inputStrides)
  have houtput : s.explicitOutputStrides = t.explicitOutputStrides := hints (hp .outputStrides)
  cases s
  cases t
  simp_all

/-! ## New values -/

theorem held_assign_self (h : s.assign p v = .ok t) :
    t.held p = some (p.coerce s.precision v) := by
  cases p with
  | lengths =>
    obtain ⟨lengths, hnew, rfl⟩ := exists_of_map_eq_ok h
    rw [coerce_of_newLengths hnew]
    rfl
  | inputStrides | outputStrides =>
    obtain ⟨strides, hnew, rfl⟩ := exists_of_map_eq_ok h
    rw [eq_of_newStrides hnew]
    rfl
  | forwardScale =>
    obtain ⟨x, hx, -, hscale⟩ := @scale_assign s t .forward v h
    simp only [Parameter.coerce, hx, ← hscale]
    rfl
  | backwardScale =>
    obtain ⟨x, hx, -, hscale⟩ := @scale_assign s t .backward v h
    simp only [Parameter.coerce, hx, ← hscale]
    rfl
  | numberOfTransforms | forwardDistance | backwardDistance =>
    obtain ⟨n, hnew, rfl⟩ := exists_of_map_eq_ok h
    rw [eq_of_positive hnew]
    rfl
  | placement | complexStorage | workspace | conjugateEvenStorage =>
    obtain ⟨new, hnew, rfl⟩ := exists_of_map_eq_ok h
    obtain ⟨c, rfl, hc⟩ := choice_of_chosen hnew
    cases c <;> cases hc <;> rfl
  | ordering =>
    obtain ⟨_, hnew, rfl⟩ := exists_of_map_eq_ok h
    obtain ⟨rfl, rfl⟩ := eq_ordered_of_newOrdering hnew
    rfl
  | transpose =>
    obtain ⟨_, hnew, rfl⟩ := exists_of_map_eq_ok h
    obtain ⟨rfl, rfl⟩ := eq_false_of_newTranspose hnew
    rfl
  | realStorage | packedFormat | forwardDomain | precision | dimension | commitStatus => cases h

theorem held_assign_of_ne (hq : q ≠ p) (h : s.assign p v = .ok t) : t.held q = s.held q := by
  have hdimension := (shape_assign h).2.2
  cases p with
  | lengths =>
    obtain ⟨lengths, hnew, rfl⟩ := exists_of_map_eq_ok h
    cases q with
    | lengths => exact absurd rfl hq
    | dimension => exact congrArg (fun n : Nat => some (Value.int n)) hdimension
    | _ => rfl
  | inputStrides | outputStrides | forwardScale | backwardScale | numberOfTransforms
  | forwardDistance | backwardDistance | placement | complexStorage | conjugateEvenStorage
  | workspace | ordering | transpose =>
    obtain ⟨new, _, rfl⟩ := exists_of_map_eq_ok h
    cases q <;> first | rfl | exact absurd rfl hq
  | realStorage | packedFormat | forwardDomain | precision | dimension | commitStatus => cases h

theorem held_assign (h : s.assign p v = .ok t) :
    t.held = Function.update s.held p (some (p.coerce s.precision v)) := by
  funext q
  by_cases hq : q = p
  · subst hq
    rw [Function.update_self]
    exact held_assign_self h
  · rw [Function.update_of_ne hq]
    exact held_assign_of_ne hq h

theorem exists_assign (hprecision : t.precision = s.precision)
    (hdimension : t.dimension = s.dimension) (h : s.assign p v = .ok u) :
    ∃ u', t.assign p v = .ok u' := by
  have hstrides : ∀ p, t.newStrides p v = s.newStrides p v := by
    intro p
    simp only [newStrides, hdimension]
  cases p with
  | lengths =>
    obtain ⟨new, hnew, -⟩ := exists_of_map_eq_ok h
    have hlengths : t.newLengths v = s.newLengths v := by
      simp only [newLengths, hdimension]
    apply Exists.intro
    rw [assign, hlengths, hnew]
    rfl
  | inputStrides | outputStrides =>
    obtain ⟨new, hnew, -⟩ := exists_of_map_eq_ok h
    apply Exists.intro
    rw [assign, hstrides, hnew]
    rfl
  | forwardScale | backwardScale =>
    obtain ⟨new, hnew, -⟩ := exists_of_map_eq_ok h
    have hscale : ∀ p, t.newScale p v = s.newScale p v := by
      intro p
      simp only [newScale, hprecision]
    apply Exists.intro
    rw [assign, hscale, hnew]
    rfl
  | numberOfTransforms | forwardDistance | backwardDistance | placement | complexStorage
  | conjugateEvenStorage | workspace | ordering | transpose =>
    obtain ⟨new, hnew, -⟩ := exists_of_map_eq_ok h
    apply Exists.intro
    rw [assign, hnew]
    rfl
  | realStorage | packedFormat | forwardDomain | precision | dimension | commitStatus => cases h

theorem assign_comm {s₁ s₂ : Settings} {v' : Value} (hpq : p ≠ q) (first : s.assign p v = .ok s₁)
    (second : s₁.assign q v' = .ok s₂) :
    ∃ s', s.assign q v' = .ok s' ∧ s'.assign p v = .ok s₂ := by
  obtain ⟨hprecision, -, hdimension⟩ := shape_assign first
  obtain ⟨s', hq⟩ := exists_assign hprecision.symm hdimension.symm second
  obtain ⟨hprecision', -, hdimension'⟩ := shape_assign hq
  obtain ⟨s'', hp⟩ := exists_assign hprecision' hdimension' first
  have hsame : s''.held = s₂.held :=
    calc s''.held
      _ = Function.update (Function.update s.held q (some (q.coerce s.precision v'))) p
          (some (p.coerce s.precision v)) := by
        rw [held_assign hp, held_assign hq, hprecision']
      _ = Function.update (Function.update s.held p (some (p.coerce s.precision v))) q
          (some (q.coerce s.precision v')) := Function.update_comm hpq.symm _ _ _
      _ = s₂.held := by
        rw [held_assign second, held_assign first, hprecision]
  rw [eq_of_held hsame] at hp
  exact ⟨s', hq, hp⟩

theorem get_assign_of_ne {committed : Bool} (hq : q ≠ p) (h : s.assign p v = .ok t)
    (hkept : p = .lengths → s.held q ≠ none) : t.get committed q = s.get committed q := by
  by_cases hstatus : q = .commitStatus
  · rw [hstatus]
    rfl
  · rw [get_eq_held committed hstatus, get_eq_held committed hstatus, held_assign_of_ne hq h]
    by_cases hp : p = .lengths
    · obtain ⟨held, hheld⟩ := Option.ne_none_iff_exists'.mp (hkept hp)
      rw [hheld]
      rfl
    · have hlengths : some (Value.ints t.lengths) = some (Value.ints s.lengths) :=
        held_assign_of_ne (Ne.symm hp) h
      rw [Value.ints.inj (Option.some.inj hlengths)]

end Settings

namespace Descriptor

variable {ω π : Type} [Plan ω π] {d d' : Descriptor π} {p q : Parameter} {v : Value} {w w' : ω}

theorem isCommitted_set (d : Descriptor π) (p : Parameter) (v : Value) (w : ω) :
    (d.set p v w).2.1.isCommitted = d.isCommitted := by
  rcases d.set_cases p v w with ⟨_, _, hset⟩ | ⟨_, _, hnone, hset⟩ |
    ⟨_, _, _, hsome, _, _, ⟨_, _, _, hset⟩ | ⟨_, _, _, hset⟩⟩
  · rw [hset]
  · rw [hset, isCommitted, isCommitted, hnone]
  · rw [hset]
  · rw [hset, isCommitted, isCommitted, hsome]
    rfl

/-- Setting a parameter changes what no other one reads as, but for strides that were never set when
lengths are. -/
theorem get_set_of_ne (hset : (d.set p v w).1 = .ok ()) (hq : q ≠ p) :
    (d.set p v w).2.1.get q = d.get q ∨ p = .lengths ∧ d.settings.held q = none := by
  by_cases hkept : p = .lengths → d.settings.held q ≠ none
  · left
    rw [get, get, isCommitted_set]
    exact Settings.get_assign_of_ne hq (assign_of_set hset) hkept
  · right
    rw [Classical.not_imp, not_not] at hkept
    exact hkept

theorem set_eq_ok_iff_of_uncommitted (hd : d.isCommitted = false) :
    d.set p v w = (.ok (), d', w') ↔
      ∃ t, d.settings.assign p v = .ok t ∧ d' = ⟨t, none⟩ ∧ w' = w := by
  have hproposed : d.proposed p v = d.settings.assign p v := by
    cases p <;> simp [proposed, checkChangeable, hd, Settings.assign, Parameter.isReadOnly]
  have hnone : d.commitment = none := Option.isNone_iff_eq_none.mp (by simpa [isCommitted] using hd)
  rw [set, hproposed, hnone]
  cases d.settings.assign p v with
  | error fault => simp
  | ok t => simp [eq_comm]

theorem set_comm {d₁ d₂ : Descriptor π} {w₁ w₂ : ω} {v' : Value} (hd : d.isCommitted = false)
    (hpq : p ≠ q) (first : d.set p v w = (.ok (), d₁, w₁))
    (second : d₁.set q v' w₁ = (.ok (), d₂, w₂)) :
    ∃ d', d.set q v' w = (.ok (), d', w) ∧ d'.set p v w = (.ok (), d₂, w₂) := by
  obtain ⟨s₁, hfirst, rfl, rfl⟩ := (set_eq_ok_iff_of_uncommitted hd).mp first
  obtain ⟨s₂, hsecond, rfl, rfl⟩ := (set_eq_ok_iff_of_uncommitted rfl).mp second
  obtain ⟨s', hq, hp⟩ := Settings.assign_comm hpq hfirst hsecond
  exact ⟨⟨s', none⟩, (set_eq_ok_iff_of_uncommitted hd).mpr ⟨s', hq, rfl, rfl⟩,
    (set_eq_ok_iff_of_uncommitted rfl).mpr ⟨s₂, hp, rfl, rfl⟩⟩

end Descriptor

/-! ## Runs -/

namespace System

variable {ω π : Type} [Plan ω π]

theorem held_step (s : System ω π) (c : Call ω π) (p : Parameter) :
    (s.step c).descriptor.settings.held p =
      ((s.accepted p c).map (p.coerce s.descriptor.settings.precision)).or
        (s.descriptor.settings.held p) := by
  cases c with
  | set q v =>
    simp only [accepted, step]
    cases hset : (s.descriptor.set q v s.world).1 with
    | error e =>
      rw [Descriptor.descriptor_set_of_error hset]
      rfl
    | ok u =>
      rw [Settings.held_assign (Descriptor.assign_of_set hset)]
      by_cases hq : q = p
      · subst hq
        rw [Function.update_self, if_pos rfl]
        rfl
      · rw [Function.update_of_ne (Ne.symm hq), if_neg hq]
        rfl
  | commit queue =>
    exact congrArg (fun t => Settings.held t p)
      (Descriptor.settings_commit s.registry s.descriptor queue s.world)
  | compute direction form =>
    rw [step, descriptor_compute]
    rfl
  | register backend | unregister name | configure c => rfl

/-- After a run, of every parameter is held what it was last given in it. -/
theorem held_run (s : System ω π) (calls : List (Call ω π)) (p : Parameter) :
    (s.run calls).descriptor.settings.held p =
      ((s.lastGiven p calls).map (p.coerce s.descriptor.settings.precision)).or
        (s.descriptor.settings.held p) := by
  induction calls generalizing s with
  | nil => rfl
  | cons c rest ih =>
    have hprecision : (s.step c).descriptor.settings.precision =
        s.descriptor.settings.precision := (s.shape_run [c]).1
    rw [run, lastGiven, ih, held_step, hprecision, Option.map_or, Option.or_assoc]

/-- In every state of every run of a new descriptor, a parameter reads as the value that it was last
given, in the form in which it keeps that, or as its default; strides that were never given are
those of the current lengths. So a value that is accepted changes nothing else but such strides, and
before commit two of them can be given in either order. -/
theorem reads_last_given (s : System ω π) {precision : Precision} {domain : Domain}
    {lengths : List Int} (made : Descriptor.new precision domain lengths = .ok s.descriptor)
    (calls : List (Call ω π)) :
    let d := (s.run calls).descriptor
    (∃ current, d.get .lengths = .ints current ∧ ∀ p, p ≠ .commitStatus →
      (∀ v ∈ s.lastGiven p calls, p.Keeps precision v (d.get p)) ∧
        (s.lastGiven p calls = none → d.get p = p.unset precision domain lengths current)) ∧
    (∀ p v (w : ω), (d.set p v w).1 = .ok () → ∀ q, q ≠ p →
      (d.set p v w).2.1.get q = d.get q ∨
        p = .lengths ∧ (q = .inputStrides ∨ q = .outputStrides) ∧ s.lastGiven q calls = none) ∧
    ∀ p q, p ≠ q → ∀ v v' d₁ d₂ (w w₁ w₂ : ω), d.isCommitted = false →
      d.set p v w = (.ok (), d₁, w₁) → d₁.set q v' w₁ = (.ok (), d₂, w₂) →
      ∃ d', d.set q v' w = (.ok (), d', w) ∧ d'.set p v w = (.ok (), d₂, w₂) := by
  intro d
  obtain ⟨-, -, hstart⟩ := Descriptor.new_eq_ok_iff.1 made
  have hinitial : s.descriptor.settings = Settings.initial precision domain lengths := by
    rw [hstart]
  have hheld : ∀ p, d.settings.held p = ((s.lastGiven p calls).map (p.coerce precision)).or
      ((Settings.initial precision domain lengths).held p) := by
    intro p
    rw [s.held_run calls p, hinitial]
    rfl
  refine ⟨⟨d.settings.lengths, rfl, ?_⟩, ?_, ?_⟩
  · intro p hp
    have hget : d.get p = _ := Settings.get_eq_held d.isCommitted hp
    rw [hheld] at hget
    constructor
    · intro v hv
      rw [Option.mem_def.mp hv] at hget
      rw [hget]
      apply Parameter.keeps_coerce
      rintro direction rfl
      have hrun := s.scale_run calls direction
      rw [Option.mem_def.mp hv] at hrun
      obtain ⟨x, hx, hfinite, -⟩ := hrun
      exact ⟨x, hx, hfinite⟩
    · intro hnone
      rw [hnone] at hget
      rw [hget, Settings.unset_eq_held]
      rfl
  · intro p v w hset q hq
    rcases Descriptor.get_set_of_ne hset hq with hsame | ⟨hp, hnone⟩
    · exact .inl hsame
    · refine .inr ⟨hp, Settings.strides_of_held_eq_none hnone, ?_⟩
      rw [hheld, Option.or_eq_none_iff, Option.map_eq_none_iff] at hnone
      exact hnone.1
  · intro p q hpq v v' d₁ d₂ w w₁ w₂ hd first second
    exact Descriptor.set_comm hd hpq first second

theorem reads_last_given_matrix :
    let s := onReference ⟨Settings.initial .single .complex [4, 3], none⟩
    let tenth := Binary.ofBits .double 0x3FB999999999999A
    let calls := [.set .inputStrides (.ints [7, 2, 20]), .set .lengths (.ints [6, 5]),
      .set .lengths (.int 8), .commit ⟨0, Device.host⟩, .set .forwardScale (.real tenth),
      .set .placement (.choice .notInPlace)]
    let d := (s.run calls).descriptor
    Descriptor.new .single .complex [4, 3] = .ok s.descriptor ∧
      d.get .lengths = .ints [6, 5] ∧
      d.get .inputStrides = .ints [7, 2, 20] ∧
      d.get .outputStrides = .ints [0, 5, 1] ∧
      Parameter.forwardScale.Keeps .single (.real tenth) (d.get .forwardScale) ∧
      d.get .forwardScale = .real (.ofBits .double 0x3FB99999A0000000) ∧
      d.get .placement = .choice .notInPlace := by
  intro s tenth calls d
  have made : Descriptor.new .single .complex [4, 3] = .ok s.descriptor := rfl
  obtain ⟨⟨current, hcurrent, hread⟩, -, -⟩ := reads_last_given s made calls
  have hlengths : s.lastGiven .lengths calls = some (.ints [6, 5]) := by decide +kernel
  have hinput : s.lastGiven .inputStrides calls = some (.ints [7, 2, 20]) := by decide +kernel
  have houtput : s.lastGiven .outputStrides calls = none := by decide +kernel
  have hscale : s.lastGiven .forwardScale calls = some (.real tenth) := by decide +kernel
  have hplacement : s.lastGiven .placement calls = some (.choice .notInPlace) := by
    decide +kernel
  have hvalue : d.get .lengths = .ints [6, 5] := (hread .lengths nofun).1 _ hlengths
  cases hcurrent.symm.trans hvalue
  exact ⟨made, hvalue, (hread .inputStrides nofun).1 _ hinput,
    (hread .outputStrides nofun).2 houtput, (hread .forwardScale nofun).1 _ hscale,
    by decide +kernel, (hread .placement nofun).1 _ hplacement⟩

end System

end Offload.Dft
