import Offload.Proofs.Dft.Run
import Offload.Proofs.Registry

/-!
# What backends were asked

To speak about the past of a run, its backends and plans are made to keep a ledger: each plan that
was made, each scale that a plan took over and each transform that a plan was given is entered on the
side of the backend, with the arguments that arrived there. `run_withLedger` says that this changes
nothing else: a run with a ledger is the run without it. `step_writes` says all that one call can
enter.
-/

set_option autoImplicit false

namespace Offload

namespace Dft

open Number

variable {ω π : Type}

/-! ## The ledger -/

/-- One thing that a backend or a plan was asked for. -/
inductive Entry (π : Type)
  | planned (backend : String) (queue : Queue) (settings : Settings) (plan : π)
  | rescaled (asked : π) (direction : Direction) (scale : Double) (became : π)
  | executed (asked : π) (queue : Queue) (direction : Direction) (args : Args Samples)
      (dependencies : List Event)

def Entry.isPlanned : Entry π → Bool
  | planned .. => true
  | _ => false

structure Ledgered (ω π : Type) where
  world : ω
  ledger : List (Entry π)

instance [Plan ω π] : Plan (Ledgered ω π) π where
  execute plan queue direction args dependencies w :=
    let (answer, results, world) :=
      Plan.execute plan queue direction args dependencies w.world
    (answer, results, ⟨world, .executed plan queue direction args dependencies :: w.ledger⟩)
  setScale plan direction x w :=
    match Plan.setScale plan direction x w.world with
    | (.error e, world) => (.error e, ⟨world, w.ledger⟩)
    | (.ok became, world) => (.ok became, ⟨world, .rescaled plan direction x became :: w.ledger⟩)

def Backend.ledgered (b : Backend ω π) : Backend (Ledgered ω π) π where
  name := b.name
  supports := b.supports
  commit queue settings w :=
    match b.commit queue settings w.world with
    | (.error e, world) => (.error e, ⟨world, w.ledger⟩)
    | (.ok plan, world) => (.ok plan, ⟨world, .planned b.name queue settings plan :: w.ledger⟩)

def Call.ledgered : Call ω π → Call (Ledgered ω π) π
  | .set p v => .set p v
  | .commit queue => .commit queue
  | .compute direction form => .compute direction form
  | .register backend => .register backend.ledgered
  | .unregister name => .unregister name
  | .configure c => .configure c

def System.withLedger (s : System ω π) (ledger : List (Entry π)) : System (Ledgered ω π) π where
  descriptor := s.descriptor
  registry := s.registry.map Backend.ledgered
  memory := s.memory
  world := ⟨s.world, ledger⟩

/-! ## What one call enters -/

/-- A call on a descriptor made these entries and left that descriptor. -/
inductive Writes : Descriptor π → List (Entry π) → Descriptor π → Prop
  | nothing (d : Descriptor π) : Writes d [] d
  | configured {d : Descriptor π} (h : d.commitment = none) (s : Settings) : Writes d [] ⟨s, none⟩
  | planned (d : Descriptor π) (backend : String) (queue : Queue) (plan : π) :
    Writes d [.planned backend queue d.settings plan]
      ⟨d.settings, some ⟨plan, queue, backend⟩⟩
  | rescaled {d : Descriptor π} {c : Commitment π} (h : d.commitment = some c)
      (direction : Direction) (x : Double) (plan : π) :
    Writes d [.rescaled c.plan direction x plan]
      ⟨d.settings.withScale direction x, some { c with plan }⟩
  | executed {d : Descriptor π} {c : Commitment π} (h : d.commitment = some c)
      (direction : Direction) (args : Args Samples) (dependencies : List Event) :
    Writes d [.executed c.plan c.queue direction args dependencies] d

section Entries
variable [Plan ω π]

theorem set_ledgered (d : Descriptor π) (p : Parameter) (v : Value) (w : ω)
    (ledger : List (Entry π)) :
    ∃ entries, d.set p v (⟨w, ledger⟩ : Ledgered ω π) =
        ((d.set p v w).1, (d.set p v w).2.1, ⟨(d.set p v w).2.2, entries ++ ledger⟩) ∧
      Writes d entries (d.set p v w).2.1 := by
  rcases d.set_cases p v w with ⟨fault, hp, hset⟩ | ⟨s, hp, hc, hset⟩ |
    ⟨c, direction, x, hc, hd, hp, hset⟩
  · refine ⟨[], ?_, ?_⟩
    · simp [Descriptor.set, hp]
    · rw [hset]
      exact .nothing d
  · refine ⟨[], ?_, ?_⟩
    · simp [Descriptor.set, hp, hc]
    · rw [hset]
      exact .configured hc s
  · rcases hset with ⟨e, w', hs, hset⟩ | ⟨plan, w', hs, hset⟩
    · refine ⟨[], ?_, ?_⟩
      · rw [hset]
        simp [Descriptor.set, hp, hc, hd, Settings.scale_withScale_self, Plan.setScale, hs]
      · rw [hset]
        exact .nothing d
    · refine ⟨[.rescaled c.plan direction x plan], ?_, ?_⟩
      · rw [hset]
        simp [Descriptor.set, hp, hc, hd, Settings.scale_withScale_self, Plan.setScale, hs]
      · rw [hset]
        exact .rescaled hc direction x plan

omit [Plan ω π] in
theorem commit_ledgered (registry : Registry (Backend ω π)) (d : Descriptor π) (queue : Queue)
    (w : ω) (ledger : List (Entry π)) :
    ∃ entries,
      d.commit (registry.map Backend.ledgered) queue (⟨w, ledger⟩ : Ledgered ω π) =
        ((d.commit registry queue w).1, (d.commit registry queue w).2.1,
          ⟨(d.commit registry queue w).2.2, entries ++ ledger⟩) ∧
      Writes d entries (d.commit registry queue w).2.1 ∧
      ((d.commit registry queue w).1 = .ok () ↔
        ∃ backend plan, entries = [.planned backend queue d.settings plan]) := by
  have hchoice : (registry.map Backend.ledgered).backendFor queue.device =
      (registry.backendFor queue.device).map Backend.ledgered :=
    Registry.backendFor_map (f := Backend.ledgered) (fun _ => rfl) (fun _ _ => rfl) registry
      queue.device
  rcases d.commit_cases registry queue w with ⟨hr, hs, h⟩ | ⟨hsplit, ⟨e, hb, h⟩ | ⟨b, hb, hmade⟩⟩
  · refine ⟨[], ?_, ?_, ?_⟩
    · rw [h]
      simp [Descriptor.commit, hr, hs]
    · rw [h]
      exact .nothing d
    · simp [h]
  · refine ⟨[], ?_, ?_, ?_⟩
    · rw [h]
      simp [Descriptor.commit, hsplit, hchoice, hb, Except.map]
    · rw [h]
      exact .nothing d
    · simp [h]
  · rcases hmade with ⟨e, w', hm, h⟩ | ⟨plan, w', hm, h⟩
    · refine ⟨[], ?_, ?_, ?_⟩
      · rw [h]
        simp [Descriptor.commit, hsplit, hchoice, hb, Except.map, Backend.ledgered, hm]
      · rw [h]
        exact .nothing d
      · simp [h]
    · refine ⟨[.planned b.name queue d.settings plan], ?_, ?_, ?_⟩
      · rw [h]
        simp [Descriptor.commit, hsplit, hchoice, hb, Except.map, Backend.ledgered, hm]
      · rw [h]
        exact .planned d b.name queue plan
      · simp [h]

omit [Plan ω π] in
theorem commitment_of_passed {d : Descriptor π} {direction : Direction} {args : Args Samples}
    {c : Commitment π} (h : d.admit direction args = .ok c) : d.commitment = some c := by
  unfold Descriptor.admit at h
  cases hc : d.commitment with
  | none => simp [hc] at h
  | some c' =>
    simp only [hc] at h
    split at h
    · cases h
    · split at h
      · cases h
      · cases he : checkExtents d.settings direction args with
        | error fault => simp [he, Except.map] at h
        | ok u =>
          simp only [he, Except.map, Except.ok.injEq] at h
          rw [h]

namespace System

def executions (s : System ω π) (direction : Direction) (form : Form) : List (Entry π) :=
  match checkDistinct form.named with
  | .error _ => []
  | .ok () =>
    match s.descriptor.admit direction (form.args s.memory) with
    | .error _ => []
    | .ok c => [.executed c.plan c.queue direction (form.args s.memory) form.dependencies]

omit [Plan ω π] in
theorem writes_executions (s : System ω π) (direction : Direction) (form : Form) :
    Writes s.descriptor (s.executions direction form) s.descriptor := by
  unfold executions
  cases checkDistinct form.named with
  | error fault => exact .nothing _
  | ok u =>
    cases ha : s.descriptor.admit direction (form.args s.memory) with
    | error fault => exact .nothing _
    | ok c => exact .executed (commitment_of_passed ha) direction _ _

theorem compute_withLedger (s : System ω π) (ledger : List (Entry π)) (direction : Direction)
    (form : Form) :
    (s.withLedger ledger).compute direction form =
      ((s.compute direction form).1,
        (s.compute direction form).2.withLedger (s.executions direction form ++ ledger)) := by
  cases form with
  | slices args dependencies =>
    simp only [compute, withLedger, executions, Form.named, Form.args, Form.dependencies,
      checkDistinct, Descriptor.compute]
    cases s.descriptor.admit direction args <;> rfl
  | buffers storages =>
    simp only [compute, withLedger, executions, Form.named, Form.args, Form.dependencies,
      Descriptor.computeBuffers]
    cases checkDistinct (storages.names.zip storages.toList) with
    | error fault => rfl
    | ok u =>
      simp only [Descriptor.computeIn, Descriptor.compute]
      cases s.descriptor.admit direction (storages.map s.memory.get) with
      | error fault => rfl
      | ok c =>
        simp only [Plan.execute]
        cases Plan.execute c.plan c.queue direction (storages.map s.memory.get) [] s.world with
        | mk answer rest => cases answer <;> rfl

/-- One call with a ledger is the call without, and enters what such a call can enter. -/
theorem step_writes (s : System ω π) (c : Call ω π) (ledger : List (Entry π)) :
    ∃ entries, (s.withLedger ledger).step c.ledgered = (s.step c).withLedger (entries ++ ledger) ∧
      Writes s.descriptor entries (s.step c).descriptor := by
  cases c with
  | set p v =>
    obtain ⟨entries, hset, hw⟩ := set_ledgered s.descriptor p v s.world ledger
    refine ⟨entries, ?_, hw⟩
    simp only [step, Call.ledgered, withLedger, hset]
  | commit queue =>
    obtain ⟨entries, hcommit, hw, _⟩ :=
      commit_ledgered s.registry s.descriptor queue s.world ledger
    refine ⟨entries, ?_, hw⟩
    simp only [step, Call.ledgered, withLedger, hcommit]
  | compute direction form =>
    refine ⟨s.executions direction form, ?_, ?_⟩
    · simp only [step, Call.ledgered, compute_withLedger]
    · rw [step, descriptor_compute]
      exact s.writes_executions direction form
  | register backend =>
    refine ⟨[], ?_, .nothing _⟩
    simp only [step, Call.ledgered, withLedger, List.nil_append]
    rw [Registry.register_map (f := Backend.ledgered) fun _ => rfl]
  | unregister name =>
    refine ⟨[], ?_, .nothing _⟩
    simp only [step, Call.ledgered, withLedger, List.nil_append]
    rw [Registry.unregister_map (f := Backend.ledgered) fun _ => rfl]
  | configure c => exact ⟨[], rfl, .nothing _⟩

/-- A run with a ledger is the run without; what is kept by all that one call can enter holds at
its end. -/
theorem run_writes {P : List (Entry π) → Descriptor π → Prop}
    (writes_keeps : ∀ old entries d d', Writes d entries d' → P old d → P (entries ++ old) d')
    (s : System ω π) (old : List (Entry π)) (h : P old s.descriptor) (calls : List (Call ω π)) :
    ∃ ledger, (s.withLedger old).run (calls.map Call.ledgered) = (s.run calls).withLedger ledger ∧
      P ledger (s.run calls).descriptor := by
  -- The later calls of a run start from what the earlier ones entered, so the ledger varies.
  induction calls generalizing s old with
  | nil => exact ⟨old, rfl, h⟩
  | cons c rest ih =>
    obtain ⟨entries, hstep, hw⟩ := s.step_writes c old
    obtain ⟨ledger, hrest, hP⟩ := ih (s.step c) (entries ++ old) (writes_keeps _ _ _ _ hw h)
    refine ⟨ledger, ?_, hP⟩
    rw [List.map_cons, run, hstep, hrest, run]

def ledger (s : System ω π) (calls : List (Call ω π)) : List (Entry π) :=
  ((s.withLedger []).run (calls.map Call.ledgered)).world.ledger

/-- What holds of the empty ledger at first, and is kept by all that one call can enter, holds of
the ledger of every run. -/
theorem ledger_induction {P : List (Entry π) → Descriptor π → Prop}
    (writes_keeps : ∀ old entries d d', Writes d entries d' → P old d → P (entries ++ old) d')
    {s : System ω π} (h : P [] s.descriptor) (calls : List (Call ω π)) :
    P (s.ledger calls) (s.run calls).descriptor := by
  obtain ⟨ledger, hrun, hP⟩ := s.run_writes writes_keeps [] h calls
  have hledger : s.ledger calls = ledger := by rw [System.ledger, hrun, withLedger]
  rwa [hledger]

theorem run_withLedger (s : System ω π) (calls : List (Call ω π)) :
    (s.withLedger []).run (calls.map Call.ledgered) =
      (s.run calls).withLedger (s.ledger calls) := by
  obtain ⟨ledger, hrun, _⟩ :=
    s.run_writes (P := fun _ _ => True) (fun _ _ _ _ _ _ => trivial) [] trivial calls
  have hledger : s.ledger calls = ledger := by rw [System.ledger, hrun, withLedger]
  rw [hrun, hledger]

theorem ledger_append (s : System ω π) (calls : List (Call ω π)) (c : Call ω π) :
    s.ledger (calls ++ [c]) =
      (((s.run calls).withLedger (s.ledger calls)).step c.ledgered).world.ledger := by
  rw [ledger, List.map_append, run_append, run_withLedger]
  rfl

end System

end Entries

end Dft

end Offload
