import Offload.Proofs.Dft.Ledger

/-!
# Calls that fail to configure a descriptor

Setting a parameter and committing can fail in many places, some of them after a plan or a backend
was asked. `refused_calls_leave_no_trace` says that such a call leaves everything but the world as it
was, and the world as the plan or the backend left it that refused. What plans and backends keep for
themselves is part of the world; if they keep it when they refuse, the failed calls of a run could as
well not have been made.
-/

set_option autoImplicit false

namespace Offload

namespace Dft

open Number

variable {ω π : Type}

/-! ## Refusals -/

def Call.configures : Call ω π → Bool
  | .set .. | .commit _ => true
  | _ => false

namespace System

variable [Plan ω π]

def answer (s : System ω π) : Call ω π → Except Error Unit
  | .set p v => (s.descriptor.set p v s.world).1
  | .commit queue => (s.descriptor.commit s.registry queue s.world).1
  | .compute direction form => (s.compute direction form).1.map fun _ => ()
  | .register _ | .unregister _ | .configure _ => .ok ()

/-- How a call that sets or commits comes to fail with an error, and the world afterwards. -/
inductive Refusal (s : System ω π) : Call ω π → Error → ω → Prop
  | value {p : Parameter} {v : Value} {fault : SetFault}
      (proposed : s.descriptor.proposed p v = .error fault) :
    Refusal s (.set p v) fault.toError s.world
  | rescale {p : Parameter} {v : Value} {c : Commitment π} {direction : Direction} {x : Double}
      {e : Error} {w : ω} (committed : s.descriptor.commitment = some c)
      (proposed : s.descriptor.proposed p v = .ok (s.descriptor.settings.withScale direction x))
      (refused : Plan.setScale c.plan direction x s.world = (.error e, w)) :
    Refusal s (.set p v) e w
  | splitReal {queue : Queue} (real : s.descriptor.settings.domain = .real)
      (split : s.descriptor.settings.storage = .split) :
    Refusal s (.commit queue) Descriptor.splitReal s.world
  | unserved {queue : Queue} {e : Error}
      (unserved : s.registry.backendFor queue.device = .error e) :
    Refusal s (.commit queue) e s.world
  | plan {queue : Queue} {backend : Backend ω π} {e : Error} {w : ω}
      (selected : s.registry.backendFor queue.device = .ok backend)
      (refused : backend.commit queue s.descriptor.settings s.world = (.error e, w)) :
    Refusal s (.commit queue) e w

theorem step_of_error {s : System ω π} {c : Call ω π} {e : Error} (hc : c.configures = true)
    (h : s.answer c = .error e) :
    ∃ w, s.Refusal c e w ∧ s.step c = { s with world := w } := by
  cases c with
  | set p v =>
    rcases s.descriptor.set_cases p v s.world with ⟨fault, hp, hset⟩ | ⟨t, _, _, hset⟩ |
      ⟨c, direction, x, hcommitted, _, hp, ⟨found, w, hrefused, hset⟩ | ⟨plan, w, _, hset⟩⟩
    · simp only [answer, hset, Except.error.injEq] at h
      subst h
      exact ⟨s.world, .value hp, by simp only [step, hset]⟩
    · simp [answer, hset] at h
    · simp only [answer, hset, Except.error.injEq] at h
      subst h
      exact ⟨w, .rescale hcommitted hp hrefused, by simp only [step, hset]⟩
    · simp [answer, hset] at h
  | commit queue =>
    rcases s.descriptor.commit_cases s.registry queue s.world with ⟨hr, hs, hcommit⟩ |
      ⟨_, ⟨found, hnone, hcommit⟩ | ⟨backend, hb, ⟨found, w, hrefused, hcommit⟩ |
        ⟨plan, w, _, hcommit⟩⟩⟩
    · simp only [answer, hcommit, Except.error.injEq] at h
      subst h
      exact ⟨s.world, .splitReal hr hs, by simp only [step, hcommit]⟩
    · simp only [answer, hcommit, Except.error.injEq] at h
      subst h
      exact ⟨s.world, .unserved hnone, by simp only [step, hcommit]⟩
    · simp only [answer, hcommit, Except.error.injEq] at h
      subst h
      exact ⟨w, .plan hb hrefused, by simp only [step, hcommit]⟩
    · simp [answer, hcommit] at h
  | compute direction form => cases hc
  | register backend => cases hc
  | unregister name => cases hc
  | configure config => cases hc

end System

/-! ## Runs without the calls that failed -/

/-- A backend that refuses leaves the world as it was. -/
def Backend.Quiet (b : Backend ω π) : Prop :=
  ∀ queue settings w e w', b.commit queue settings w = (.error e, w') → w' = w

def QuietPlans (ω π : Type) [Plan ω π] : Prop :=
  ∀ (plan : π) direction x (w : ω) e w',
    Plan.setScale plan direction x w = (.error e, w') → w' = w

def Call.Quiet : Call ω π → Prop
  | .register backend => backend.Quiet
  | _ => True

namespace System

def Quiet (s : System ω π) : Prop := ∀ b ∈ s.registry.backends, b.Quiet

variable [Plan ω π]

def refuses (s : System ω π) (c : Call ω π) : Bool := c.configures && !(s.answer c).isOk

/-- A run without the calls that fail to set or to commit in it. -/
def settled (s : System ω π) : List (Call ω π) → List (Call ω π)
  | [] => []
  | c :: rest =>
    if s.refuses c then (s.step c).settled rest else c :: (s.step c).settled rest

theorem world_of_refusal (plans : QuietPlans ω π) {s : System ω π} (backends : s.Quiet)
    {c : Call ω π} {e : Error} {w : ω} (h : s.Refusal c e w) : w = s.world := by
  cases h with
  | value proposed => rfl
  | rescale committed proposed refused => exact plans _ _ _ _ _ _ refused
  | splitReal real split => rfl
  | unserved unserved => rfl
  | plan selected refused =>
    exact backends _ (Registry.mem_of_backendFor selected) _ _ _ _ _ refused

theorem quiet_step {s : System ω π} (h : s.Quiet) {c : Call ω π} (hc : c.Quiet) :
    (s.step c).Quiet := by
  intro b hb
  cases c with
  | set p v => exact h b hb
  | commit queue => exact h b hb
  | compute direction form =>
    cases form with
    | slices args dependencies => exact h b hb
    | buffers storages => exact h b hb
  | register backend =>
    rcases List.mem_cons.1 hb with rfl | hold
    · exact hc
    · exact h b (List.mem_filter.1 hold).1
  | unregister name => exact h b (List.mem_filter.1 hb).1
  | configure config => exact h b hb

theorem run_settled (plans : QuietPlans ω π) {s : System ω π} (backends : s.Quiet)
    {calls : List (Call ω π)} (hcalls : ∀ c ∈ calls, c.Quiet) :
    s.run (s.settled calls) = s.run calls := by
  induction calls generalizing s with
  | nil => rfl
  | cons c rest ih =>
    have hc := hcalls c (List.mem_cons_self ..)
    have hrest := ih (quiet_step backends hc) fun other hm => hcalls other (List.mem_cons_of_mem _ hm)
    rw [settled, run]
    cases hrefused : s.refuses c with
    | false =>
      rw [if_neg Bool.false_ne_true, run]
      exact hrest
    | true =>
      have hsame : s.step c = s := by
        rw [refuses, Bool.and_eq_true] at hrefused
        obtain ⟨hconfigures, herror⟩ := hrefused
        cases hanswer : s.answer c with
        | ok u =>
          rw [hanswer] at herror
          cases herror
        | error e =>
          obtain ⟨w, hw, hstep⟩ := step_of_error hconfigures hanswer
          rw [hstep, world_of_refusal plans backends hw]
      rw [hsame] at hrest ⊢
      rw [if_pos rfl]
      exact hrest

/-- A call that fails to set a parameter or to commit changes the world alone, and that only as the
plan or backend did which refused: every parameter reads back as before, and transforms reach the
same plan on the same queue. When refusals leave no traces in the world either, a run comes to the
same as the run without the calls that fail to set or commit. -/
theorem refused_calls_leave_no_trace (s : System ω π) :
    (∀ c e, c.configures = true → s.answer c = .error e →
      (∃ w, s.Refusal c e w ∧ s.step c = { s with world := w }) ∧
      (∀ p, (s.step c).descriptor.get p = s.descriptor.get p) ∧
      ∀ direction form, (s.step c).executions direction form = s.executions direction form) ∧
    (QuietPlans ω π → s.Quiet → ∀ calls : List (Call ω π), (∀ c ∈ calls, c.Quiet) →
      s.run (s.settled calls) = s.run calls) := by
  constructor
  · intro c e hc h
    obtain ⟨w, hw, hstep⟩ := step_of_error hc h
    refine ⟨⟨w, hw, hstep⟩, ?_, ?_⟩
    · intro p
      rw [hstep]
    · intro direction form
      rw [hstep]
      rfl
  · intro plans backends calls hcalls
    exact run_settled plans backends hcalls

theorem refused_calls_leave_no_trace_recommit :
    let s := (onReference ⟨Settings.initial .double .complex [4], none⟩).run
      [.commit ⟨0, Device.host⟩]
    let again := .commit ⟨1, ⟨.amd, 0, "gfx90a"⟩⟩
    let calls := [again, .set .placement (.choice .notInPlace), .set .forwardScale (.int 2)]
    s.descriptor.isCommitted = true ∧
      s.answer again = .error (.backendUnavailable "dft" "amd:0") ∧
      (∀ direction form,
        (s.step again).executions direction form = s.executions direction form) ∧
      (s.settled calls).length = 1 ∧ s.run (s.settled calls) = s.run calls := by
  intro s again calls
  have hrefused : s.answer again = .error (.backendUnavailable "dft" "amd:0") := rfl
  have plans : QuietPlans (Machine Unit) Reference.ReferencePlan := by
    intro plan direction x w e w' h
    simp only [Plan.setScale] at h
    split at h
    · exact (congrArg Prod.snd h).symm
    · cases h
  have backends : s.Quiet := by
    intro b hb queue settings w e w' h
    have hreference : b = Reference.backend id false := List.mem_singleton.1 hb
    subst hreference
    exact (congrArg Prod.snd h).symm
  obtain ⟨hcall, hsettled⟩ := refused_calls_leave_no_trace s
  obtain ⟨-, -, hexecutions⟩ := hcall again _ rfl hrefused
  refine ⟨by decide +kernel, hrefused, hexecutions, rfl, hsettled plans backends calls ?_⟩
  intro c hc
  simp only [calls, List.mem_cons, List.not_mem_nil, or_false] at hc
  rcases hc with rfl | rfl | rfl <;> trivial

end System

end Dft

end Offload
