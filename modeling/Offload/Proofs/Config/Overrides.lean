import Offload.Config.Load
import Offload.Proofs.Text.CaseAndBlanks

/-!
# The environment over a configuration

Each variable that is set asks for a value of one setting. `Layered` says that one configuration is
another one with what the variables ask for in it. The variables are taken one by one and the
outcome is checked at the end, so what came before a fault stays: `Halted`. `applied_iff` says when
an environment is applied, and `overrides_halt` what is left of a configuration when it is not.
-/

set_option autoImplicit false

namespace Offload

open Text

/-! ## What texts ask for -/

def Blank (s : String) : Prop := ∀ c ∈ s.toList, isBlank c = true

def Environment.without (env : Environment) (v : Variable) : Environment :=
  Function.update env v none

namespace Config

def spellings : Bool → List String
  | true => ["1", "true", "yes", "on"]
  | false => ["0", "false", "no", "off", ""]

def Spells (s : String) (b : Bool) : Prop := lowered (trimmed s) ∈ spellings b

instance (s : String) (b : Bool) : Decidable (Spells s b) := inferInstanceAs (Decidable (_ ∈ _))

def unrecognized (s : String) : Error :=
  .config s!"LINHAL_STRICT: expected a boolean, got '{lowered (trimmed s)}'"

inductive Names (s : String) : Option String → Prop
  | nothing : Blank s → Names s none
  | backend : ¬Blank s → Names s (some (lowered (trimmed s)))

theorem parseFlag_eq (s : String) :
    parseFlag s =
      if Spells s true then .ok true
      else if Spells s false then .ok false else .error (unrecognized s) := rfl

theorem not_spells_false {s : String} (h : Spells s true) : ¬Spells s false := by
  have hapart : ∀ word ∈ spellings true, word ∉ spellings false := by decide
  exact hapart _ h

theorem parseFlag_eq_ok_iff {s : String} {b : Bool} : parseFlag s = .ok b ↔ Spells s b := by
  rw [parseFlag_eq]
  by_cases htrue : Spells s true
  · have hfalse := not_spells_false htrue
    cases b <;> simp [htrue, hfalse]
  · by_cases hfalse : Spells s false
    · cases b <;> simp [htrue, hfalse]
    · cases b <;> simp [htrue, hfalse]

theorem parseFlag_eq_error_iff {s : String} {e : Error} :
    parseFlag s = .error e ↔ (∀ b, ¬Spells s b) ∧ e = unrecognized s := by
  rw [parseFlag_eq, Bool.forall_bool]
  by_cases htrue : Spells s true
  · simp [htrue]
  · by_cases hfalse : Spells s false
    · simp [htrue, hfalse]
    · simp [htrue, hfalse, eq_comm]

theorem backendOfText_eq_iff {s : String} {backend : Option String} :
    backendOfText s = backend ↔ Names s backend := by
  have hempty : trim s.toList = [] ↔ Blank s := trim_eq_nil_iff
  unfold backendOfText
  by_cases hblank : Blank s
  · rw [if_pos (hempty.mpr hblank)]
    constructor
    · rintro rfl
      exact .nothing hblank
    · intro h
      cases h with
      | nothing _ => rfl
      | backend hword => exact absurd hblank hword
  · rw [if_neg fun h => hblank (hempty.mp h)]
    have hname : String.ofList (lower (trim s.toList)) = lowered (trimmed s) := by
      simp [lowered, trimmed]
    rw [hname]
    constructor
    · rintro rfl
      exact .backend hblank
    · intro h
      cases h with
      | nothing hnone => exact absurd hnone hblank
      | backend _ => rfl

example : backendOfText "\tRocBLAS " = some "rocblas" := rfl

end Config

/-! ## Consistent configurations -/

def Preference.Consistent (p : Preference) : Prop :=
  ∀ name, p.backend = some name → ¬Blank name ∧ p.enabled = true

namespace Config

variable {env : Environment} {c d : Config} {e : Error}

structure Consistent (c : Config) : Prop where
  blas : c.blas.Consistent
  dft : c.dft.Consistent

theorem checkPreference_eq_ok_iff (domain : String) {p : Preference} :
    checkPreference domain p = .ok () ↔ p.Consistent := by
  unfold checkPreference Preference.Consistent
  cases p.backend with
  | none => simp
  | some name =>
    have hempty : trim name.toList = [] ↔ Blank name := trim_eq_nil_iff
    by_cases hblank : Blank name
    · simp [hempty, hblank]
    · by_cases henabled : p.enabled = true
      · simp [hempty, hblank, henabled]
      · simp [hempty, hblank, henabled]

theorem validate_eq_ok_iff : c.validate = .ok () ↔ c.Consistent := by
  have hconsistent : c.Consistent ↔ c.blas.Consistent ∧ c.dft.Consistent :=
    ⟨fun h => ⟨h.blas, h.dft⟩, fun h => ⟨h.1, h.2⟩⟩
  rw [hconsistent, ← checkPreference_eq_ok_iff "blas", ← checkPreference_eq_ok_iff "dft", validate]
  cases checkPreference "blas" c.blas <;> simp

theorem checked_eq_ok_iff : checked c = .ok d ↔ c.Consistent ∧ d = c := by
  rw [← validate_eq_ok_iff, checked]
  cases c.validate <;> simp [Except.map, eq_comm]

theorem checked_eq_error_iff : checked c = .error e ↔ c.validate = .error e := by
  rw [checked]
  cases c.validate <;> simp [Except.map]

/-! ## One variable over one setting -/

section Setting

variable {α : Type} {v : Variable} {read : String → Except Error α} {Asks : String → α → Prop}
  {before after : α}

/-- The variable decides the setting if it is set, and otherwise the setting stays. -/
def Overridden (env : Environment) (v : Variable) (Asks : String → α → Prop) (before after : α) :
    Prop :=
  match env v with
  | some s => Asks s after
  | none => after = before

/-- Every override is this one, of its own setting. -/
def setting (env : Environment) (v : Variable) (read : String → Except Error α) (before : α) :
    Except Error α :=
  match env v with
  | some s => read s
  | none => .ok before

theorem setting_eq_ok_iff (hread : ∀ {s a}, read s = .ok a ↔ Asks s a) :
    setting env v read before = .ok after ↔ Overridden env v Asks before after := by
  unfold setting Overridden
  cases env v with
  | none => simp [eq_comm]
  | some s => exact hread

theorem setting_eq_error_iff :
    setting env v read before = .error e ↔ ∃ s, env v = some s ∧ read s = .error e := by
  unfold setting
  cases env v <;> simp

theorem map_setting_eq_ok_iff {f : α → Config} (hread : ∀ {s a}, read s = .ok a ↔ Asks s a) :
    (setting env v read before).map f = .ok d ↔
      ∃ after, Overridden env v Asks before after ∧ d = f after := by
  simp only [← setting_eq_ok_iff hread]
  cases setting env v read before <;> simp [Except.map, eq_comm]

theorem map_setting_eq_error_iff {f : α → Config} :
    (setting env v read before).map f = .error e ↔ ∃ s, env v = some s ∧ read s = .error e := by
  have hsetting : setting env v read before = .error e ↔ ∃ s, env v = some s ∧ read s = .error e :=
    setting_eq_error_iff
  rw [← hsetting]
  cases setting env v read before <;> simp [Except.map]

end Setting

theorem overrideDevice_eq (env : Environment) (c : Config) :
    overrideDevice env c =
      (setting env .device Device.Spec.parse c.device).map fun device => { c with device } := by
  unfold overrideDevice setting
  cases env .device <;> rfl

theorem overrideBlas_eq (env : Environment) (c : Config) :
    overrideBlas env c =
      (setting env .blasBackend (fun s => .ok (backendOfText s)) c.blas.backend).map
        fun backend => { c with blas := { c.blas with backend } } := by
  unfold overrideBlas setting
  cases env .blasBackend <;> rfl

theorem overrideDft_eq (env : Environment) (c : Config) :
    overrideDft env c =
      (setting env .dftBackend (fun s => .ok (backendOfText s)) c.dft.backend).map
        fun backend => { c with dft := { c.dft with backend } } := by
  unfold overrideDft setting
  cases env .dftBackend <;> rfl

theorem overrideStrict_eq (env : Environment) (c : Config) :
    overrideStrict env c =
      (setting env .strict parseFlag c.strict).map fun strict => { c with strict } := by
  unfold overrideStrict setting
  cases env .strict <;> rfl

theorem overrideDevice_eq_error_iff :
    overrideDevice env c = .error e ↔
      ∃ s, env .device = some s ∧ Device.Spec.parse s = .error e := by
  rw [overrideDevice_eq, map_setting_eq_error_iff]

theorem overrideBlas_ne_error : overrideBlas env c ≠ .error e := by
  simp [overrideBlas_eq, map_setting_eq_error_iff]

theorem overrideDft_ne_error : overrideDft env c ≠ .error e := by
  simp [overrideDft_eq, map_setting_eq_error_iff]

theorem overrideStrict_eq_error_iff :
    overrideStrict env c = .error e ↔
      ∃ s, env .strict = some s ∧ (∀ b, ¬Spells s b) ∧ e = unrecognized s := by
  simp only [overrideStrict_eq, map_setting_eq_error_iff, parseFlag_eq_error_iff]

/-! ## All variables over a configuration -/

def AsksFor (s : String) (device : Device.Spec) : Prop := Device.Spec.parse s = .ok device

/-- The second configuration is the first one with what the variables ask for in it. -/
structure Layered (env : Environment) (before after : Config) : Prop where
  device : Overridden env .device AsksFor before.device after.device
  strict : Overridden env .strict Spells before.strict after.strict
  blasBackend : Overridden env .blasBackend Names before.blas.backend after.blas.backend
  dftBackend : Overridden env .dftBackend Names before.dft.backend after.dft.backend
  blasEnabled : after.blas.enabled = before.blas.enabled
  dftEnabled : after.dft.enabled = before.dft.enabled

theorem Layered.eq (h : Layered env c d) :
    d = { c with
      device := d.device
      strict := d.strict
      blas := { c.blas with backend := d.blas.backend }
      dft := { c.dft with backend := d.dft.backend } } := by
  obtain ⟨device, strict, ⟨blasBackend, blasEnabled⟩, ⟨dftBackend, dftEnabled⟩⟩ := d
  have hblas : blasEnabled = c.blas.enabled := h.blasEnabled
  have hdft : dftEnabled = c.dft.enabled := h.dftEnabled
  rw [hblas, hdft]

/-- How taking an environment ends early, and what it leaves of a configuration. -/
inductive Halted (env : Environment) (before : Config) : Error → Config → Prop
  -- The device comes first, so nothing has changed yet.
  | device {s : String} {e : Error} (hset : env .device = some s)
      (hread : Device.Spec.parse s = .error e) : Halted env before e before
  -- The strictness comes last: all others are taken.
  | strict {s : String} {after : Config} (hset : env .strict = some s) (hread : ∀ b, ¬Spells s b)
      (hothers : Layered (env.without .strict) before after) :
      Halted env before (unrecognized s) after
  | check {e : Error} {after : Config} (hall : Layered env before after)
      (hcheck : after.validate = .error e) : Halted env before e after

section Steps

variable {step : Config → Except Error Config} {steps rest : List (Config → Except Error Config)}

theorem takeSteps_cons_eq_ok_iff :
    takeSteps (step :: rest) c = (.ok (), d) ↔
      ∃ m, step c = .ok m ∧ takeSteps rest m = (.ok (), d) := by
  rw [takeSteps]
  cases step c <;> simp

theorem takeSteps_nil_eq_ok_iff : takeSteps [] c = (.ok (), d) ↔ d = c := by
  simp [takeSteps, eq_comm]

theorem takeSteps_append_eq_ok_iff :
    takeSteps (steps ++ rest) c = (.ok (), d) ↔
      ∃ m, takeSteps steps c = (.ok (), m) ∧ takeSteps rest m = (.ok (), d) := by
  induction steps generalizing c with
  | nil => simp [takeSteps_nil_eq_ok_iff]
  | cons step steps ih =>
    simp only [List.cons_append, takeSteps_cons_eq_ok_iff, ih]
    constructor
    · rintro ⟨m, hstep, m', hsteps, hrest⟩
      exact ⟨m', ⟨m, hstep, hsteps⟩, hrest⟩
    · rintro ⟨m', ⟨m, hstep, hsteps⟩, hrest⟩
      exact ⟨m, hstep, m', hsteps, hrest⟩

/-- A step that fails leaves what the steps before it made. -/
theorem takeSteps_eq_error_iff :
    takeSteps steps c = (.error e, d) ↔
      ∃ n step, steps[n]? = some step ∧ takeSteps (steps.take n) c = (.ok (), d) ∧
        step d = .error e := by
  induction steps generalizing c with
  | nil => simp [takeSteps]
  | cons first rest ih =>
    rw [takeSteps]
    cases hfirst : first c with
    | error fault =>
      constructor
      · intro h
        cases h
        exact ⟨0, first, rfl, rfl, hfirst⟩
      · rintro ⟨n, step, hstep, hbefore, hfault⟩
        cases n with
        | zero =>
          obtain rfl := takeSteps_nil_eq_ok_iff.mp hbefore
          obtain rfl := Option.some.inj hstep
          rw [hfirst, Except.error.injEq] at hfault
          rw [hfault]
        | succ n => simp [List.take_succ_cons, takeSteps_cons_eq_ok_iff, hfirst] at hbefore
    | ok m =>
      dsimp only
      rw [ih]
      constructor
      · rintro ⟨n, step, hstep, hbefore, hfault⟩
        refine ⟨n + 1, step, hstep, ?_, hfault⟩
        exact takeSteps_cons_eq_ok_iff.mpr ⟨m, hfirst, hbefore⟩
      · rintro ⟨n, step, hstep, hbefore, hfault⟩
        cases n with
        | zero =>
          obtain rfl := takeSteps_nil_eq_ok_iff.mp hbefore
          obtain rfl := Option.some.inj hstep
          simp [hfirst] at hfault
        | succ n =>
          simp only [List.take_succ_cons, takeSteps_cons_eq_ok_iff, hfirst, Except.ok.injEq,
            exists_eq_left'] at hbefore
          exact ⟨n, step, hstep, hbefore, hfault⟩

end Steps

theorem ok_backendOfText_iff {s : String} {backend : Option String} :
    (.ok (backendOfText s) : Except Error (Option String)) = .ok backend ↔ Names s backend := by
  rw [Except.ok.injEq, backendOfText_eq_iff]

theorem taken_iff :
    takeSteps [overrideDevice env, overrideBlas env, overrideDft env, overrideStrict env] c =
      (.ok (), d) ↔ Layered env c d := by
  have hdevice : ∀ {s device}, Device.Spec.parse s = .ok device ↔ AsksFor s device := Iff.rfl
  simp only [takeSteps_cons_eq_ok_iff, takeSteps_nil_eq_ok_iff, overrideDevice_eq, overrideBlas_eq,
    overrideDft_eq, overrideStrict_eq, map_setting_eq_ok_iff hdevice,
    map_setting_eq_ok_iff ok_backendOfText_iff, map_setting_eq_ok_iff parseFlag_eq_ok_iff]
  constructor
  · rintro ⟨_, ⟨device, hdevice, rfl⟩, _, ⟨blas, hblas, rfl⟩, _, ⟨dft, hdft, rfl⟩,
      _, ⟨strict, hstrict, rfl⟩, rfl⟩
    exact ⟨hdevice, hstrict, hblas, hdft, rfl, rfl⟩
  · intro h
    exact ⟨_, ⟨_, h.device, rfl⟩, _, ⟨_, h.blasBackend, rfl⟩, _, ⟨_, h.dftBackend, rfl⟩,
      _, ⟨_, h.strict, rfl⟩, h.eq⟩

theorem taken_before_strict_iff :
    takeSteps [overrideDevice env, overrideBlas env, overrideDft env] c = (.ok (), d) ↔
      Layered (env.without .strict) c d := by
  have hstrict : overrideStrict (env.without .strict) = Except.ok := rfl
  rw [← taken_iff, hstrict]
  simp only [takeSteps_cons_eq_ok_iff, Except.ok.injEq, exists_eq_left']
  exact Iff.rfl

theorem applied_iff :
    applyEnvironment env c = (.ok (), d) ↔ Layered env c d ∧ d.Consistent := by
  have hsplit : overrides env =
      [overrideDevice env, overrideBlas env, overrideDft env, overrideStrict env] ++ [checked] := rfl
  rw [applyEnvironment, hsplit, takeSteps_append_eq_ok_iff]
  simp only [taken_iff]
  simp only [takeSteps_cons_eq_ok_iff, takeSteps_nil_eq_ok_iff, checked_eq_ok_iff]
  constructor
  · rintro ⟨m, hlayered, _, ⟨hconsistent, rfl⟩, rfl⟩
    exact ⟨hlayered, hconsistent⟩
  · rintro ⟨hlayered, hconsistent⟩
    exact ⟨d, hlayered, d, ⟨hconsistent, rfl⟩, rfl⟩

/-- An environment fails over a configuration in three ways. A device that is none leaves it as it
was, a misspelled strictness with what all other variables ask for, and an inconsistent outcome stays
as it is. -/
theorem overrides_halt : applyEnvironment env c = (.error e, d) ↔ Halted env c e d := by
  rw [applyEnvironment, takeSteps_eq_error_iff]
  constructor
  · rintro ⟨n, step, hstep, hbefore, hfault⟩
    match n with
    | 0 =>
      obtain rfl := Option.some.inj hstep
      obtain rfl := takeSteps_nil_eq_ok_iff.mp hbefore
      obtain ⟨s, hset, hread⟩ := overrideDevice_eq_error_iff.mp hfault
      exact .device hset hread
    | 1 =>
      obtain rfl := Option.some.inj hstep
      exact absurd hfault overrideBlas_ne_error
    | 2 =>
      obtain rfl := Option.some.inj hstep
      exact absurd hfault overrideDft_ne_error
    | 3 =>
      obtain rfl := Option.some.inj hstep
      obtain ⟨s, hset, hread, rfl⟩ := overrideStrict_eq_error_iff.mp hfault
      exact .strict hset hread (taken_before_strict_iff.mp hbefore)
    | 4 =>
      obtain rfl := Option.some.inj hstep
      exact .check (taken_iff.mp hbefore) (checked_eq_error_iff.mp hfault)
    | n + 5 => simp [overrides] at hstep
  · intro h
    cases h with
    | device hset hread =>
      exact ⟨0, _, rfl, rfl, overrideDevice_eq_error_iff.mpr ⟨_, hset, hread⟩⟩
    | strict hset hread hothers =>
      exact ⟨3, _, rfl, taken_before_strict_iff.mpr hothers,
        overrideStrict_eq_error_iff.mpr ⟨_, hset, hread, rfl⟩⟩
    | check hall hcheck =>
      exact ⟨4, _, rfl, taken_iff.mpr hall, checked_eq_error_iff.mpr hcheck⟩

def misspelled : Environment
  | .device => some "cpu"
  | .strict => some "maybe"
  | _ => none

theorem overrides_stay :
    ¬∀ env before e after, applyEnvironment env before = (.error e, after) → after = before := by
  intro h
  have hfails : applyEnvironment misspelled {} =
      (.error (unrecognized "maybe"), { device := .host }) := rfl
  have hsame : ({ device := .host } : Config) = {} := h _ _ _ _ hfails
  cases hsame

end Config

end Offload
