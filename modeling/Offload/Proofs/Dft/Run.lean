import Offload.Dft.Compute
import Offload.Dft.Reference

/-!
# Runs of a descriptor

A run is a list of calls on one descriptor, mixed with changes of the registry that it commits
through. `set_cases` and `commit_cases` say everything that can come of setting a parameter and of
committing; all that is proved about runs rests on them. Plans and backends are arbitrary and may
refuse whatever they are asked.
-/

set_option autoImplicit false

namespace Offload.Dft

open Number

variable {ω π : Type}

/-! ## What setting and committing can come to -/

namespace Settings

/-- The settings differ in nothing but the scales. -/
def SameButScales (s t : Settings) : Prop :=
  ∃ forwardScale backwardScale, t = { s with forwardScale, backwardScale }

theorem sameButScales_refl (s : Settings) : s.SameButScales s :=
  ⟨s.forwardScale, s.backwardScale, rfl⟩

theorem sameButScales_trans {s t u : Settings} (hst : s.SameButScales t)
    (htu : t.SameButScales u) : s.SameButScales u := by
  obtain ⟨_, _, rfl⟩ := hst
  obtain ⟨x, y, rfl⟩ := htu
  exact ⟨x, y, rfl⟩

theorem sameButScales_withScale (s : Settings) (direction : Direction) (x : Double) :
    s.SameButScales (s.withScale direction x) := by
  cases direction with
  | forward => exact ⟨x, s.backwardScale, rfl⟩
  | backward => exact ⟨s.forwardScale, x, rfl⟩

end Settings

namespace Descriptor

theorem new_eq_ok_iff {precision : Precision} {domain : Domain} {lengths : List Int}
    {d : Descriptor π} :
    new precision domain lengths = .ok d ↔ lengths ≠ [] ∧ checkLengths lengths = .ok () ∧
      d = ⟨Settings.initial precision domain lengths, none⟩ := by
  unfold new
  by_cases hempty : lengths = []
  · simp [hempty]
  · rw [if_neg hempty]
    cases checkLengths lengths with
    | error cause => simp
    | ok u => simp [hempty, eq_comm]

theorem assign_scale {s t : Settings} {p : Parameter} {v : Value} {direction : Direction}
    (hp : p.scaleDirection? = some direction) (h : s.assign p v = .ok t) :
    ∃ x, s.newScale p v = .ok x ∧ t = s.withScale direction x := by
  cases p <;> simp only [Parameter.scaleDirection?, reduceCtorEq, Option.some.injEq] at hp
  all_goals
    subst hp
    simp only [Settings.assign] at h
    cases hx : s.newScale _ v with
    | error fault => simp [hx, Except.map] at h
    | ok x =>
      simp only [hx, Except.map, Except.ok.injEq] at h
      exact ⟨x, rfl, h.symm⟩

theorem proposed_of_committed {d : Descriptor π} {p : Parameter} {v : Value} {s : Settings}
    (hc : d.isCommitted = true) (h : d.proposed p v = .ok s) :
    ∃ direction x, p.scaleDirection? = some direction ∧ s = d.settings.withScale direction x := by
  unfold proposed at h
  cases hg : d.checkChangeable p with
  | error fault => simp [hg] at h
  | ok u =>
    have hp : p.isChangeableAfterCommit = true := by
      unfold checkChangeable at hg
      simp only [hc, Bool.true_and, Bool.not_eq_true'] at hg
      split at hg
      · cases hg
      · split at hg
        · cases hg
        · split at hg
          · cases hg
          · simpa using ‹¬p.isChangeableAfterCommit = false›
    simp only [hg] at h
    have hd : ∃ direction, p.scaleDirection? = some direction := by
      cases p <;> simp_all [Parameter.isChangeableAfterCommit, Parameter.scaleDirection?]
    obtain ⟨direction, hd⟩ := hd
    obtain ⟨x, _, hs⟩ := assign_scale hd h
    exact ⟨direction, x, hd, hs⟩

/-- Setting a parameter refuses the value, stores it, or asks the committed plan to take over a
scale; a plan that refuses leaves the descriptor as it was. -/
theorem set_cases [Plan ω π] (d : Descriptor π) (p : Parameter) (v : Value) (w : ω) :
    (∃ fault, d.proposed p v = .error fault ∧ d.set p v w = (.error fault.toError, d, w)) ∨
    (∃ s, d.proposed p v = .ok s ∧ d.commitment = none ∧ d.set p v w = (.ok (), ⟨s, none⟩, w)) ∨
    (∃ c direction x, d.commitment = some c ∧ p.scaleDirection? = some direction ∧
      d.proposed p v = .ok (d.settings.withScale direction x) ∧
      ((∃ e w', Plan.setScale c.plan direction x w = (.error e, w') ∧
          d.set p v w = (.error e, d, w')) ∨
        ∃ plan w', Plan.setScale c.plan direction x w = (.ok plan, w') ∧
          d.set p v w =
            (.ok (), ⟨d.settings.withScale direction x, some { c with plan }⟩, w'))) := by
  cases hp : d.proposed p v with
  | error fault => exact .inl ⟨fault, rfl, by simp only [set, hp]⟩
  | ok s =>
    right
    cases hc : d.commitment with
    | none => exact .inl ⟨s, rfl, rfl, by simp only [set, hp, hc]⟩
    | some c =>
      right
      have hcommitted : d.isCommitted = true := by simp [isCommitted, hc]
      obtain ⟨direction, x, hd, rfl⟩ := proposed_of_committed hcommitted hp
      refine ⟨c, direction, x, rfl, hd, rfl, ?_⟩
      simp only [set, hp, hc, hd, Settings.scale_withScale_self]
      cases hs : Plan.setScale c.plan direction x w with
      | mk answer w' =>
        cases answer with
        | error e => exact .inl ⟨e, w', rfl, rfl⟩
        | ok plan => exact .inr ⟨plan, w', rfl, rfl⟩

theorem assign_of_proposed {d : Descriptor π} {p : Parameter} {v : Value} {s : Settings}
    (h : d.proposed p v = .ok s) : d.settings.assign p v = .ok s := by
  unfold proposed at h
  cases hc : d.checkChangeable p with
  | error fault => simp [hc] at h
  | ok u => simpa only [hc] using h

theorem descriptor_set_of_error [Plan ω π] {d : Descriptor π} {p : Parameter} {v : Value} {w : ω}
    {e : Error} (h : (d.set p v w).1 = .error e) : (d.set p v w).2.1 = d := by
  rcases d.set_cases p v w with ⟨_, _, hset⟩ | ⟨_, _, _, hset⟩ |
    ⟨_, _, _, _, _, _, ⟨_, _, _, hset⟩ | ⟨_, _, _, hset⟩⟩
  · rw [hset]
  · rw [hset] at h
    cases h
  · rw [hset]
  · rw [hset] at h
    cases h

theorem assign_of_set [Plan ω π] {d : Descriptor π} {p : Parameter} {v : Value} {w : ω}
    (h : (d.set p v w).1 = .ok ()) :
    d.settings.assign p v = .ok (d.set p v w).2.1.settings := by
  rcases d.set_cases p v w with ⟨_, _, hset⟩ | ⟨_, hp, _, hset⟩ |
    ⟨_, _, _, _, _, hp, ⟨_, _, _, hset⟩ | ⟨_, _, _, hset⟩⟩
  · rw [hset] at h
    cases h
  · rw [hset, assign_of_proposed hp]
  · rw [hset] at h
    cases h
  · rw [hset, assign_of_proposed hp]

/-- Committing fails and leaves the descriptor, before or at the backend, or binds it to the plan
that the backend made for its settings. -/
theorem commit_cases (registry : Registry (Backend ω π)) (d : Descriptor π) (queue : Queue)
    (w : ω) :
    (d.settings.domain = .real ∧ d.settings.storage = .split ∧
      d.commit registry queue w = (.error splitReal, d, w)) ∨
    (¬(d.settings.domain = .real ∧ d.settings.storage = .split) ∧
      ((∃ e, registry.backendFor queue.device = .error e ∧
          d.commit registry queue w = (.error e, d, w)) ∨
        ∃ backend, registry.backendFor queue.device = .ok backend ∧
          ((∃ e w', backend.commit queue d.settings w = (.error e, w') ∧
              d.commit registry queue w = (.error e, d, w')) ∨
            ∃ plan w', backend.commit queue d.settings w = (.ok plan, w') ∧
              d.commit registry queue w =
                (.ok (), ⟨d.settings, some ⟨plan, queue, backend.name⟩⟩, w')))) := by
  by_cases hsplit : d.settings.domain = .real ∧ d.settings.storage = .split
  · exact .inl ⟨hsplit.1, hsplit.2, by simp only [commit, if_pos hsplit]⟩
  · refine .inr ⟨hsplit, ?_⟩
    cases hb : registry.backendFor queue.device with
    | error e => exact .inl ⟨e, rfl, by simp only [commit, if_neg hsplit, hb]⟩
    | ok backend =>
      refine .inr ⟨backend, rfl, ?_⟩
      simp only [commit, if_neg hsplit, hb]
      cases hm : backend.commit queue d.settings w with
      | mk answer w' =>
        cases answer with
        | error e => exact .inl ⟨e, w', rfl, rfl⟩
        | ok plan => exact .inr ⟨plan, w', rfl, rfl⟩

end Descriptor

/-! ## Calls and runs -/

/-- The data of a transform: memory that the caller manages, with events to wait for, or buffers
by their storages. -/
inductive Form
  | slices (args : Args Samples) (dependencies : List Event)
  | buffers (storages : Args Nat)

namespace Form

def args (mem : Memory) : Form → Args Samples
  | slices args _ => args
  | buffers storages => storages.map mem.get

def dependencies : Form → List Event
  | slices _ dependencies => dependencies
  | buffers _ => []

def named : Form → List (String × Nat)
  | slices .. => []
  | buffers storages => storages.names.zip storages.toList

end Form

inductive Call (ω π : Type)
  | set (p : Parameter) (v : Value)
  | commit (queue : Queue)
  | compute (direction : Direction) (form : Form)
  | register (backend : Backend ω π)
  | unregister (name : String)
  | configure (c : Config)

structure System (ω π : Type) where
  descriptor : Descriptor π
  registry : Registry (Backend ω π)
  memory : Memory
  world : ω

namespace System

def Fresh (s : System ω π) : Prop :=
  ∃ precision domain lengths, Descriptor.new precision domain lengths = .ok s.descriptor

variable [Plan ω π]

def compute (s : System ω π) (direction : Direction) :
    Form → Except Error (Option Event) × System ω π
  | .slices args dependencies =>
    let (answer, _, world) := s.descriptor.compute direction args dependencies s.world
    (answer.map some, { s with world })
  | .buffers storages =>
    let (answer, memory, world) :=
      s.descriptor.computeBuffers direction storages s.memory s.world
    (answer.map fun () => none, { s with memory, world })

def step (s : System ω π) : Call ω π → System ω π
  | .set p v =>
    let (_, descriptor, world) := s.descriptor.set p v s.world
    { s with descriptor, world }
  | .commit queue =>
    let (_, descriptor, world) := s.descriptor.commit s.registry queue s.world
    { s with descriptor, world }
  | .compute direction form => (s.compute direction form).2
  | .register backend => { s with registry := s.registry.register backend }
  | .unregister name => { s with registry := s.registry.unregister name }
  | .configure c => { s with registry := s.registry.configure c }

def run (s : System ω π) : List (Call ω π) → System ω π
  | [] => s
  | c :: rest => (s.step c).run rest

theorem run_append (s : System ω π) (first second : List (Call ω π)) :
    s.run (first ++ second) = (s.run first).run second := by
  induction first generalizing s with
  | nil => rfl
  | cons c rest ih => exact ih (s.step c)

/-- What holds at first and is kept by every call holds after every run. -/
theorem run_induction {P : System ω π → Prop} (step_keeps : ∀ s c, P s → P (s.step c))
    {s : System ω π} (h : P s) (calls : List (Call ω π)) : P (s.run calls) := by
  induction calls generalizing s with
  | nil => exact h
  | cons c rest ih => exact ih (step_keeps s c h)

theorem descriptor_compute (s : System ω π) (direction : Direction) (form : Form) :
    (s.compute direction form).2.descriptor = s.descriptor := by
  cases form <;> rfl

theorem descriptor_induction {P : Descriptor π → Prop}
    (set_keeps : ∀ d p v (w : ω), P d → P (d.set p v w).2.1)
    (commit_keeps : ∀ (registry : Registry (Backend ω π)) d queue (w : ω), P d →
      P (d.commit registry queue w).2.1)
    {s : System ω π} (h : P s.descriptor) (calls : List (Call ω π)) :
    P (s.run calls).descriptor := by
  refine run_induction (P := fun t => P t.descriptor) ?_ h calls
  intro t c ht
  cases c with
  | set p v => exact set_keeps t.descriptor p v t.world ht
  | commit queue => exact commit_keeps t.registry t.descriptor queue t.world ht
  | compute direction form =>
    rw [step, descriptor_compute]
    exact ht
  | register backend => exact ht
  | unregister name => exact ht
  | configure c => exact ht

def accepted (s : System ω π) (p : Parameter) : Call ω π → Option Value
  | .set q v =>
    match (s.descriptor.set q v s.world).1 with
    | .ok () => if q = p then some v else none
    | .error _ => none
  | _ => none

/-- The value that a parameter was last given with success in a run. -/
def lastGiven (s : System ω π) (p : Parameter) : List (Call ω π) → Option Value
  | [] => none
  | c :: rest => ((s.step c).lastGiven p rest).or (s.accepted p c)

def onReference (d : Descriptor Reference.ReferencePlan) :
    System (Machine Unit) Reference.ReferencePlan where
  descriptor := d
  registry := (Registry.empty "dft").register (Reference.backend id false)
  memory := ⟨[]⟩
  world := {}

end System

end Offload.Dft
