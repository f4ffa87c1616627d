import Offload.Proofs.Dft.WellFormed
import Offload.Proofs.Registry

/-!
# Descriptors committed to the reference backend

A descriptor is committed to the reference backend if some run left it so. Other backends may take
part in the run, as long as none goes by the same name. Its plan then is one for the settings of the
descriptor, which are those of one dimension: `Descriptor.OnReference.sound`.
-/

set_option autoImplicit false

namespace Offload.Dft

open Number Reference

variable {ν : Type}

/-! ## Runs with a reference backend -/

/-- The backend is the reference backend, in either variant, if it has its name. -/
def Backend.Honest (b : Backend (Machine ν) ReferencePlan) : Prop :=
  b.name = "reference" → ∃ fixedScales, b = Reference.backend id fixedScales

def Call.Honest : Call (Machine ν) ReferencePlan → Prop
  | .register b => b.Honest
  | _ => True

def System.Honest (s : System (Machine ν) ReferencePlan) : Prop :=
  ∀ b ∈ s.registry.backends, b.Honest

namespace Descriptor

/-- A run has left the descriptor committed to the reference backend. -/
def OnReference (d : Descriptor ReferencePlan) (c : Commitment ReferencePlan) : Prop :=
  ∃ (ν : Type) (s : System (Machine ν) ReferencePlan)
    (calls : List (Call (Machine ν) ReferencePlan)),
    s.Fresh ∧ s.Honest ∧ (∀ call ∈ calls, call.Honest) ∧ (s.run calls).descriptor = d ∧
      d.commitment = some c ∧ c.backend = "reference"

/-! ## What such a commitment rests on -/

/-- A plan of the reference backend is one for the settings, which have one dimension. -/
def Sound (d : Descriptor ReferencePlan) : Prop :=
  ∀ c, d.commitment = some c → c.backend = "reference" →
    c.plan.settings = d.settings ∧ d.settings.dimension = 1

theorem sound_of_uncommitted {d : Descriptor ReferencePlan} (h : d.commitment = none) :
    d.Sound := by
  intro c hc
  rw [h] at hc
  cases hc

theorem sound_set {d : Descriptor ReferencePlan} (h : d.Sound) (p : Parameter) (v : Value)
    (w : Machine ν) : (d.set p v w).2.1.Sound := by
  rcases d.set_cases p v w with ⟨_, _, hset⟩ | ⟨s, _, _, hset⟩ |
    ⟨c, direction, x, hc, _, _, ⟨_, _, _, hset⟩ | ⟨plan, w', hplan, hset⟩⟩
  · rw [hset]
    exact h
  · rw [hset]
    exact sound_of_uncommitted rfl
  · rw [hset]
    exact h
  · rw [hset]
    intro found hfound hname
    simp only [Option.some.injEq] at hfound
    subst hfound
    obtain ⟨hsettings, hdimension⟩ := h c hc hname
    -- The plan took over the scale that the settings got.
    have hbecame : plan.settings = c.plan.settings.withScale direction x := by
      simp only [Plan.setScale] at hplan
      split at hplan
      · cases hplan
      · cases hplan
        rfl
    refine ⟨by rw [hbecame, hsettings], ?_⟩
    cases direction <;> exact hdimension

theorem sound_commit {registry : Registry (Backend (Machine ν) ReferencePlan)}
    (hhonest : ∀ b ∈ registry.backends, b.Honest) {d : Descriptor ReferencePlan} (h : d.Sound)
    (queue : Queue) (w : Machine ν) : (d.commit registry queue w).2.1.Sound := by
  rcases d.commit_cases registry queue w with ⟨_, _, hcommit⟩ |
    ⟨_, ⟨_, _, hcommit⟩ | ⟨b, hb, ⟨_, _, _, hcommit⟩ | ⟨plan, w', hplan, hcommit⟩⟩⟩
  · rw [hcommit]
    exact h
  · rw [hcommit]
    exact h
  · rw [hcommit]
    exact h
  · rw [hcommit]
    intro found hfound hname
    simp only [Option.some.injEq] at hfound
    subst hfound
    obtain ⟨fixedScales, rfl⟩ := hhonest b (Registry.mem_of_backendFor hb) hname
    simp only [Reference.backend, Reference.plan] at hplan
    split at hplan
    · rename_i hdimension
      cases hplan
      exact ⟨rfl, hdimension⟩
    · cases hplan

end Descriptor

namespace System

theorem honest_onReference (d : Descriptor ReferencePlan) : (onReference d).Honest := by
  intro b hb _
  have hregistered : (onReference d).registry.backends = [Reference.backend id false] := rfl
  rw [hregistered, List.mem_singleton] at hb
  exact ⟨false, hb⟩

theorem honest_step {s : System (Machine ν) ReferencePlan} (h : s.Honest)
    {call : Call (Machine ν) ReferencePlan} (hcall : call.Honest) : (s.step call).Honest := by
  cases call with
  | set p v => exact h
  | commit queue => exact h
  | compute direction form => cases form <;> exact h
  | register b =>
    intro other hother
    rcases List.mem_cons.mp hother with rfl | hkept
    · exact hcall
    · exact h other (List.mem_filter.mp hkept).1
  | unregister name =>
    intro other hother
    exact h other (List.mem_filter.mp hother).1
  | configure c => exact h

theorem sound_step {s : System (Machine ν) ReferencePlan} (hhonest : s.Honest)
    (h : s.descriptor.Sound) (call : Call (Machine ν) ReferencePlan) :
    (s.step call).descriptor.Sound := by
  cases call with
  | set p v => exact Descriptor.sound_set h p v s.world
  | commit queue => exact Descriptor.sound_commit hhonest h queue s.world
  | compute direction form =>
    rw [step, descriptor_compute]
    exact h
  | register b => exact h
  | unregister name => exact h
  | configure c => exact h

theorem sound_run {s : System (Machine ν) ReferencePlan} (hhonest : s.Honest)
    (h : s.descriptor.Sound) {calls : List (Call (Machine ν) ReferencePlan)}
    (hcalls : ∀ call ∈ calls, call.Honest) : (s.run calls).descriptor.Sound := by
  induction calls generalizing s with
  | nil => exact h
  | cons call rest ih =>
    rw [List.forall_mem_cons] at hcalls
    exact ih (honest_step hhonest hcalls.1) (sound_step hhonest h call) hcalls.2

end System

namespace Descriptor.OnReference

variable {d : Descriptor ReferencePlan} {c : Commitment ReferencePlan}

theorem of_run {start : Descriptor ReferencePlan} (fresh : (System.onReference start).Fresh)
    {calls : List (Call (Machine Unit) ReferencePlan)} (hcalls : ∀ call ∈ calls, call.Honest)
    (hc : ((System.onReference start).run calls).descriptor.commitment = some c)
    (hname : c.backend = "reference") :
    ((System.onReference start).run calls).descriptor.OnReference c :=
  ⟨Unit, System.onReference start, calls, fresh, System.honest_onReference start, hcalls, rfl, hc,
    hname⟩

theorem commitment (h : d.OnReference c) : d.commitment = some c := by
  obtain ⟨_, _, _, _, _, _, _, hc, _⟩ := h
  exact hc

theorem wellFormed (h : d.OnReference c) : d.settings.WellFormed := by
  obtain ⟨_, s, calls, fresh, _, _, rfl, _, _⟩ := h
  exact System.wellFormed_run fresh calls

theorem sound (h : d.OnReference c) :
    c.plan.settings = d.settings ∧ d.settings.dimension = 1 := by
  obtain ⟨_, s, calls, fresh, hhonest, hcalls, rfl, hc, hname⟩ := h
  have hstart : s.descriptor.Sound := by
    obtain ⟨precision, domain, lengths, hnew⟩ := fresh
    obtain ⟨-, -, hinitial⟩ := Descriptor.new_eq_ok_iff.mp hnew
    rw [hinitial]
    exact sound_of_uncommitted rfl
  exact System.sound_run hhonest hstart hcalls c hc hname

end Descriptor.OnReference

end Offload.Dft
