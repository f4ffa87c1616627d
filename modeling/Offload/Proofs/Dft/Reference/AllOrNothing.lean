import Offload.Proofs.Dft.Reference.Committed
import Offload.Proofs.Dft.Reference.Transform

/-!
# Transforms that fail leave all data alone

A transform on the reference backend writes its results one after the other and would stop at one
that has no place. The checks in front of it see to it that this never happens: `covers_of_admitted`.
So a call is refused before it submits anything, or it submits one task, which writes everything or
nothing. `all_or_nothing` says this of both kinds of calls, and how the task ends.
-/

set_option autoImplicit false

namespace Offload

def Machine.entered {ν : Type} (w : Machine ν) (queue : Queue) (outcome : Except Error Unit) :
    Machine ν :=
  { w with queues := w.queues.modify queue (·.enter outcome) }

namespace Dft

open Number Reference

/-! ## The checks cover the data -/

section Views

variable (domain : Domain) (direction : Direction) {args : Args Samples} {data : Samples}

theorem Domain.spectrumWidth_pos (domain : Domain) : 1 ≤ domain.spectrumWidth := by
  cases domain <;> decide

theorem exists_role_of_input (h : data ∈ args.inputs) :
    ∃ view ∈ views domain direction args, view.length = data.length ∧
      ∃ role ∈ view.roles, role.side = direction ∧ 1 ≤ role.width := by
  have hwidth := domain.spectrumWidth_pos
  cases args <;> simp only [Args.inputs, List.mem_cons, List.not_mem_nil, or_false] at h
  case inPlace =>
    subst h
    cases direction <;> simp [views, hwidth]
  case inPlaceSplit =>
    rcases h with rfl | rfl <;> cases direction <;> simp [views]
  case outOfPlace =>
    subst h
    simp [views]
  case outOfPlaceSplit =>
    rcases h with rfl | rfl <;> simp [views]

theorem exists_role_of_output (h : data ∈ args.outputs) :
    ∃ view ∈ views domain direction args, view.length = data.length ∧
      ∃ role ∈ view.roles, role.side = direction.opposite ∧ 1 ≤ role.width := by
  have hwidth := domain.spectrumWidth_pos
  cases args <;> simp only [Args.outputs, List.mem_cons, List.not_mem_nil, or_false] at h
  case inPlace =>
    subst h
    cases direction <;> simp [views, Direction.opposite, hwidth]
  case inPlaceSplit =>
    rcases h with rfl | rfl <;> cases direction <;> simp [views, Direction.opposite]
  case outOfPlace =>
    subst h
    simp [views]
  case outOfPlaceSplit =>
    rcases h with rfl | rfl <;> simp [views]

end Views

section Admission

variable {π : Type} {d : Descriptor π} {direction : Direction} {args : Args Samples}

theorem covers_of_admitted (h : firstFault (d.admissionChecks direction args) = none) :
    d.settings.Covers direction args := by
  rw [firstFault_eq_none_iff] at h
  simp only [Descriptor.admissionChecks, List.cons_append, List.nil_append, List.forall_mem_cons,
    List.forall_mem_map, extentCheck_eq_none_iff, Settings.lengthCheck, require_eq_none_iff,
    required_le_iff] at h
  obtain ⟨-, -, -, hforward, hbackward, hviews⟩ := h
  -- Needs end with the largest count, but no extent is beyond it and no element takes less than one.
  have hrole : ∀ view ∈ views d.settings.domain direction args, ∀ role ∈ view.roles,
      1 ≤ role.width → d.settings.extentD role.side ≤ view.length := by
    intro view hview role hmem hwidth
    have hneed := hviews view hview role hmem
    have hbound := extentD_le d.settings role.side
    have hwide := Nat.mul_le_mul_right (d.settings.extentD role.side) hwidth
    omega
  refine ⟨?_, ?_, ?_⟩
  · intro side
    cases side with
    | forward => exact hforward
    | backward => exact hbackward
  · intro data hdata
    obtain ⟨view, hview, hlength, role, hmem, hside, hwidth⟩ :=
      exists_role_of_input d.settings.domain direction hdata
    rw [← hlength, ← hside]
    exact hrole view hview role hmem hwidth
  · intro data hdata
    obtain ⟨view, hview, hlength, role, hmem, hside, hwidth⟩ :=
      exists_role_of_output d.settings.domain direction hdata
    rw [← hlength, ← hside]
    exact hrole view hview role hmem hwidth

end Admission

/-! ## The task of a transform -/

/-- What the task of a transform does: nothing if a dependency failed. -/
def taskRun (s : Settings) (direction : Direction) (args : Args Samples)
    (dependencies : List Event) : Except Error Unit × Args Samples :=
  match Event.waitAll dependencies with
  | .ok () => transform Float s direction args
  | .error cause => (.error cause, args)

/-- How the task ends once the checks have passed: with the failure of the first dependency that
failed, or refusing a real transform in place, or well. -/
def Settings.taskOutcome (s : Settings) (direction : Direction) (dependencies : List Event) :
    Except Error Unit :=
  match Event.waitAll dependencies with
  | .ok () =>
    if s.domain = .real ∧ s.placement = .inPlace then .error (realInPlace direction) else .ok ()
  | .error cause => .error cause

/-- Plans submit one task to the queue they are given, and take what it did to the data. -/
theorem execute_eq_taskRun {ν : Type} (plan : ReferencePlan) (queue : Queue)
    (direction : Direction) (args : Args Samples) (dependencies : List Event) (w : Machine ν) :
    Plan.execute plan queue direction args dependencies w =
      (.ok ⟨direction.task, some queue.id, (taskRun plan.settings direction args dependencies).1⟩,
        (taskRun plan.settings direction args dependencies).2,
        w.entered queue (taskRun plan.settings direction args dependencies).1) := by
  simp only [Plan.execute, Machine.submit, Queues.submit, taskRun]
  cases Event.waitAll dependencies <;> rfl

theorem taskRun_of_covers {s : Settings} {direction : Direction} {args : Args Samples}
    (h : s.Covers direction args) (hs : s.WellFormed) (hdimension : s.dimension = 1)
    (dependencies : List Event) :
    (taskRun s direction args dependencies).1 = s.taskOutcome direction dependencies ∧
      (s.taskOutcome direction dependencies ≠ .ok () →
        (taskRun s direction args dependencies).2 = args) := by
  unfold taskRun Settings.taskOutcome
  cases Event.waitAll dependencies with
  | error cause => exact ⟨rfl, fun _ => rfl⟩
  | ok u =>
    dsimp only
    by_cases hreal : s.domain = .real ∧ s.placement = .inPlace
    · rw [if_pos hreal, transform_of_realInPlace Float hreal]
      exact ⟨rfl, fun _ => rfl⟩
    · rw [if_neg hreal]
      exact ⟨transform_of_covers Float h hs hdimension hreal, fun hfailed => absurd rfl hfailed⟩

/-! ## The calls -/

namespace Descriptor

variable {ν : Type} {d : Descriptor ReferencePlan} {c : Commitment ReferencePlan}
  {direction : Direction} {args : Args Samples} {buffers : Args Nat} {mem : Memory}

theorem compute_of_fault {fault : ComputeFault}
    (h : firstFault (d.admissionChecks direction args) = some fault) (dependencies : List Event)
    (w : Machine ν) :
    d.compute direction args dependencies w = (.error (fault.toError direction), args, w) := by
  simp only [compute, admit_of_fault h]

theorem computeBuffers_of_fault {fault : ComputeFault}
    (h : firstFault (d.checks direction (.buffers buffers) mem) = some fault) (w : Machine ν) :
    d.computeBuffers direction buffers mem w = (.error (fault.toError direction), mem, w) := by
  -- The same call in a system; transforms do not look at the registry.
  have hsystem := (System.compute_of_fault (s := ⟨d, Registry.empty "dft", mem, w⟩) h).2
  simp only [System.compute, Prod.mk.injEq, System.mk.injEq, true_and] at hsystem
  obtain ⟨hanswer, hmemory, hworld⟩ := hsystem
  cases hrun : d.computeBuffers direction buffers mem w with
  | mk answer rest =>
    rw [hrun] at hanswer hmemory hworld
    cases answer with
    | ok u => cases hanswer
    | error e =>
      cases hanswer
      rw [← hmemory, ← hworld]

theorem computeBuffers_of_distinct
    (h : checkDistinct (buffers.names.zip buffers.toList) = .ok ()) (w : Machine ν) :
    d.computeBuffers direction buffers mem w =
      ((d.compute direction (buffers.map mem.get) [] w).1.bind Event.outcome,
        mem.writeBack buffers (d.compute direction (buffers.map mem.get) [] w).2.1,
        (d.compute direction (buffers.map mem.get) [] w).2.2) := by
  simp only [computeBuffers, h, computeIn]
  cases (d.compute direction (buffers.map mem.get) [] w).1 <;> rfl

theorem distinct_of_no_fault
    (h : firstFault (d.checks direction (.buffers buffers) mem) = none) :
    checkDistinct (buffers.names.zip buffers.toList) = .ok () ∧
      firstFault (d.admissionChecks direction (buffers.map mem.get)) = none := by
  rw [checks, firstFault_append, Option.or_eq_none_iff] at h
  obtain ⟨halias, hpass⟩ := h
  refine ⟨?_, hpass⟩
  rw [checkDistinct_eq_verdict, verdict]
  simp only [Form.named] at halias
  rw [halias]

namespace OnReference

theorem compute_of_no_fault (h : d.OnReference c)
    (hpass : firstFault (d.admissionChecks direction args) = none) (dependencies : List Event)
    (w : Machine ν) :
    d.compute direction args dependencies w =
      (.ok ⟨direction.task, some c.queue.id, d.settings.taskOutcome direction dependencies⟩,
        (taskRun d.settings direction args dependencies).2,
        w.entered c.queue (d.settings.taskOutcome direction dependencies)) := by
  obtain ⟨found, hfound, hadmit⟩ := admit_of_no_fault hpass
  rw [h.commitment, Option.some.injEq] at hfound
  subst hfound
  obtain ⟨hplan, hdimension⟩ := h.sound
  obtain ⟨houtcome, -⟩ :=
    taskRun_of_covers (covers_of_admitted hpass) h.wellFormed hdimension dependencies
  simp only [compute, hadmit]
  rw [execute_eq_taskRun, hplan, houtcome]

theorem compute_keeps_data (h : d.OnReference c) (direction : Direction) (args : Args Samples)
    (dependencies : List Event) (w : Machine ν)
    (hfailed : (d.compute direction args dependencies w).1.bind Event.outcome ≠ .ok ()) :
    (d.compute direction args dependencies w).2.1 = args := by
  cases hchecks : firstFault (d.admissionChecks direction args) with
  | some fault => rw [compute_of_fault hchecks]
  | none =>
    rw [h.compute_of_no_fault hchecks] at hfailed ⊢
    obtain ⟨-, hkeeps⟩ := taskRun_of_covers (covers_of_admitted hchecks) h.wellFormed h.sound.2
      dependencies
    exact hkeeps hfailed

theorem computeBuffers_keeps_memory (h : d.OnReference c) (direction : Direction)
    (buffers : Args Nat) (mem : Memory) (w : Machine ν)
    (hfailed : (d.computeBuffers direction buffers mem w).1 ≠ .ok ()) :
    (d.computeBuffers direction buffers mem w).2.1 = mem := by
  cases hdistinct : checkDistinct (buffers.names.zip buffers.toList) with
  | error fault => simp only [computeBuffers, hdistinct]
  | ok u =>
    rw [computeBuffers_of_distinct hdistinct] at hfailed ⊢
    -- What was read from the buffers is written back to them.
    have hkeeps := h.compute_keeps_data direction (buffers.map mem.get) [] w hfailed
    rw [hkeeps]
    exact Memory.writeBack_unchanged mem buffers

/-- A transform on a descriptor that is committed to the reference backend either does all or
nothing. If the call or its event fails, all data is what it was. A call that fails a check leaves
the machine alone, and one that passes all checks submits one task, to the queue of the descriptor.
Unless a dependency failed, this task succeeds, except for real transforms in place. -/
theorem all_or_nothing (h : d.OnReference c) (direction : Direction) (mem : Memory)
    (w : Machine ν) :
    (∀ (args : Args Samples) (dependencies : List Event),
      let run := d.compute direction args dependencies w
      let outcome := d.settings.taskOutcome direction dependencies
      let checks := d.checks direction (.slices args dependencies) mem
      (run.1.bind Event.outcome ≠ .ok () → run.2.1 = args) ∧
        (∀ fault, firstFault checks = some fault →
          run = (.error (fault.toError direction), args, w)) ∧
        (firstFault checks = none →
          run.1 = .ok ⟨direction.task, some c.queue.id, outcome⟩ ∧
            run.2.2 = w.entered c.queue outcome)) ∧
      ∀ buffers : Args Nat,
        let run := d.computeBuffers direction buffers mem w
        let outcome := d.settings.taskOutcome direction []
        let checks := d.checks direction (.buffers buffers) mem
        (run.1 ≠ .ok () → run.2.1 = mem) ∧
          (∀ fault, firstFault checks = some fault →
            run = (.error (fault.toError direction), mem, w)) ∧
          (firstFault checks = none → run.1 = outcome ∧ run.2.2 = w.entered c.queue outcome) := by
  refine ⟨?_, ?_⟩
  · intro args dependencies run outcome checks
    refine ⟨h.compute_keeps_data direction args dependencies w, ?_, ?_⟩
    · intro fault hfault
      exact compute_of_fault hfault dependencies w
    · intro hpass
      have hrun : run = _ := h.compute_of_no_fault hpass dependencies w
      rw [hrun]
      exact ⟨rfl, rfl⟩
  · intro buffers run outcome checks
    refine ⟨h.computeBuffers_keeps_memory direction buffers mem w, ?_, ?_⟩
    · intro fault hfault
      exact computeBuffers_of_fault hfault w
    · intro hnone
      obtain ⟨hdistinct, hpass⟩ := distinct_of_no_fault hnone
      have hrun : run = _ := computeBuffers_of_distinct hdistinct w
      rw [hrun, h.compute_of_no_fault hpass]
      exact ⟨rfl, rfl⟩

theorem all_or_nothing_four :
    let s := System.onReference ⟨Settings.initial .single .complex [4], none⟩
    let d := (s.run [.commit ⟨0, Device.host⟩]).descriptor
    let data := Samples.zeros .single true 4
    ∃ c, d.OnReference c ∧
      (d.compute .forward (.inPlace data) [] s.world).1 =
        .ok ⟨Direction.forward.task, some c.queue.id, .ok ()⟩ := by
  intro s d data
  have fresh : s.Fresh := ⟨.single, .complex, [4], rfl⟩
  have hcommitted : (d.commitment.map (·.backend)) = some "reference" := by decide +kernel
  obtain ⟨c, hc, hname⟩ := Option.map_eq_some_iff.mp hcommitted
  have hon : d.OnReference c := OnReference.of_run fresh (by simp [Call.Honest]) hc hname
  have hnone : firstFault (d.checks .forward (.slices (.inPlace data) []) s.memory) = none := by
    decide +kernel
  obtain ⟨hslices, -⟩ := hon.all_or_nothing .forward s.memory s.world
  obtain ⟨-, -, hpass⟩ := hslices (.inPlace data) []
  exact ⟨c, hon, (hpass hnone).1⟩

end OnReference

end Descriptor

end Dft

end Offload
