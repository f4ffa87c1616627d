import Mathlib.Logic.Relation
import Offload.Proofs.Queue.Usage

/-!
# Where failures come from

A task may fail because of a dependency, which failed because of one of its own, and so on over any
number of queues. To tell the tasks that ran from those that were skipped, the tasks of a run are
made to keep a trace of what each of them returned; `untraced_tracedRun` says that this changes
nothing else. `failures_rooted` says that a task is skipped just when some task that it depends on,
directly or not, ran and failed. Its error is that of a task which ran and is found by going to the
first dependency that failed, again and again.
-/

set_option autoImplicit false

namespace Offload

variable {σ : Type}

/-! ## Runs with a trace -/

/-- The tasks that ran, by number, with what they returned; the latest is first. -/
abbrev Trace : Type := List (Nat × Except Error Unit)

/-- The work of the task of number `n`, which enters in the trace what it returned. -/
def tracedWork (n : Nat) (work : σ → Except Error Unit × σ) :
    σ × Trace → Except Error Unit × σ × Trace
  | (data, trace) =>
    let (outcome, data) := work data
    (outcome, data, (n, outcome) :: trace)

/-- The operation; the task that it submits has the number `n` and keeps the trace. -/
def Operation.traced (n : Nat) : Operation σ → Operation (σ × Trace)
  | .create device => .create device
  | .clone handle => .clone handle
  | .submit handle task dependencies work =>
    .submit handle task dependencies (tracedWork n work)
  | .waitAndThrow handle => .waitAndThrow handle

namespace Usage

/-- A run whose tasks keep a trace. A task has the number that its event has. -/
def tracedRun (u : Usage (σ × Trace)) : List (Operation σ) → Usage (σ × Trace)
  | [] => u
  | op :: rest => (u.step (op.traced u.events.length)).tracedRun rest

def untraced (u : Usage (σ × Trace)) : Usage σ := { u with data := u.data.1 }

theorem untraced_step (u : Usage (σ × Trace)) (n : Nat) (op : Operation σ) :
    (u.step (op.traced n)).untraced = u.untraced.step op := by
  cases op with
  | create device => rfl
  | clone handle =>
    simp only [Operation.traced, step, untraced]
    cases u.handles[handle]? <;> rfl
  | submit handle task dependencies work =>
    simp only [Operation.traced, step, untraced]
    cases u.handles[handle]? with
    | none => rfl
    | some q =>
      have hevent : ({ u with data := u.data.1 } : Usage σ).event = u.event := rfl
      simp only [Option.elim_some, submit, Queues.submit, hevent]
      cases Event.waitAll (dependencies.map u.event) <;> rfl
  | waitAndThrow handle =>
    simp only [Operation.traced, step, untraced]
    cases u.handles[handle]? <;> rfl

theorem untraced_tracedRun (u : Usage (σ × Trace)) (ops : List (Operation σ)) :
    (u.tracedRun ops).untraced = u.untraced.run ops := by
  induction ops generalizing u with
  | nil => rfl
  | cons op rest ih => rw [tracedRun, ih, untraced_step, run]

end Usage

/-! ## The graph of dependencies -/

namespace Happening

def task? : Happening → Option (List Nat × Event)
  | submitted _ dependencies e => some (dependencies, e)
  | threw _ => none

def tasks (log : List Happening) : List (List Nat × Event) := (log.filterMap task?).reverse

theorem tasks_submitted (queue : Nat) (dependencies : List Nat) (e : Event)
    (log : List Happening) :
    tasks (.submitted queue dependencies e :: log) = tasks log ++ [(dependencies, e)] :=
  List.reverse_cons ..

end Happening

namespace Usage

/-- The events that a task was to wait for. A number that came up later was no event yet when the
task was submitted. -/
def dependencies (u : Usage σ) (n : Nat) : List Nat :=
  match (Happening.tasks u.log)[n]? with
  | some (dependencies, _) => dependencies.filter (· < n)
  | none => []

/-- The task of the first number was to wait for that of the second. -/
def DependsOn (u : Usage σ) (n m : Nat) : Prop := m ∈ u.dependencies n

def fails (u : Usage σ) (n : Nat) : Bool := !(u.event n).outcome.isOk

def Ran (u : Usage (σ × Trace)) (n : Nat) : Prop := ∃ outcome, (n, outcome) ∈ u.data.2

/-- The task of the first number was skipped, and the second is the first of its dependencies that
failed. -/
def Blames (u : Usage (σ × Trace)) (n m : Nat) : Prop :=
  ¬u.Ran n ∧ (u.dependencies n).find? u.fails = some m

section Graph

variable {u : Usage σ} {n m : Nat}

theorem lt_of_dependsOn (h : u.DependsOn n m) : m < n := by
  unfold DependsOn dependencies at h
  split at h
  · simpa using (List.mem_filter.1 h).2
  · cases h

theorem event_of_length_le (h : u.events.length ≤ n) : u.event n = Event.completed := by
  rw [event, List.getD_eq_getElem?_getD, List.getElem?_eq_none h, Option.getD_none]

end Graph

end Usage

/-! ## Waiting for dependencies -/

namespace Event

variable {ι : Type} {f : ι → Event} {ns : List ι}

theorem waitAll_filter {p : ι → Bool} (h : ∀ n ∈ ns, p n = false → (f n).outcome = .ok ()) :
    waitAll ((ns.filter p).map f) = waitAll (ns.map f) := by
  induction ns with
  | nil => rfl
  | cons n rest ih =>
    rw [List.forall_mem_cons] at h
    rw [List.map_cons, waitAll]
    cases hp : p n with
    | false =>
      rw [List.filter_cons_of_neg (by simp [hp]), h.1 hp, ih h.2]
    | true =>
      rw [List.filter_cons_of_pos hp, List.map_cons, waitAll, ih h.2]

theorem find?_of_waitAll {cause : Error} (h : waitAll (ns.map f) = .error cause) :
    ∃ n, ns.find? (fun n => !(f n).outcome.isOk) = some n ∧ (f n).outcome = .error cause := by
  induction ns with
  | nil => cases h
  | cons n rest ih =>
    rw [List.map_cons, waitAll] at h
    cases hn : (f n).outcome with
    | ok v =>
      rw [hn] at h
      obtain ⟨m, hm, hcause⟩ := ih h
      refine ⟨m, ?_, hcause⟩
      rw [List.find?_cons_of_neg (by simp [hn, Except.isOk, Except.toBool]), hm]
    | error found =>
      rw [hn] at h
      exact ⟨n, List.find?_cons_of_pos (by simp [hn, Except.isOk, Except.toBool]), hn.trans h⟩

end Event

/-! ## What the trace tells -/

namespace Usage

/-- The trace has the tasks whose dependencies succeeded, with the outcomes of their events; any
other task has the error of its dependencies. -/
structure Traced (u : Usage (σ × Trace)) : Prop where
  events : (Happening.tasks u.log).map Prod.snd = u.events
  numbered : ∀ n, u.Ran n → n < u.events.length
  settled : ∀ n < u.events.length,
    match Event.waitAll ((u.dependencies n).map u.event) with
    | .ok () => ∀ outcome, (n, outcome) ∈ u.data.2 ↔ (u.event n).outcome = outcome
    | .error cause => ¬u.Ran n ∧ (u.event n).outcome = .error cause

theorem traced_start (data : σ) : Traced ({ data := (data, []) } : Usage (σ × Trace)) where
  events := rfl
  numbered := by
    rintro n ⟨outcome, h⟩
    cases h
  settled := by
    intro n hn
    cases hn

theorem Traced.of_same {u v : Usage (σ × Trace)} (h : u.Traced)
    (htasks : Happening.tasks v.log = Happening.tasks u.log) (hevents : v.events = u.events)
    (htrace : v.data.2 = u.data.2) : v.Traced := by
  have hevent : v.event = u.event := by
    funext n
    rw [event, event, hevents]
  have hdependencies : v.dependencies = u.dependencies := by
    funext n
    rw [dependencies, dependencies, htasks]
  refine ⟨?_, ?_, ?_⟩
  · rw [htasks, hevents]
    exact h.events
  · intro n hn
    rw [hevents]
    rw [Ran, htrace] at hn
    exact h.numbered n hn
  · intro n hn
    rw [hevents] at hn
    rw [hevent, hdependencies, Ran, htrace]
    exact h.settled n hn

theorem submit_traced (u : Usage (σ × Trace)) (q : Queue) (task : String)
    (dependencies : List Nat) (work : σ → Except Error Unit × σ) (n : Nat) :
    ∃ e, (u.submit q task dependencies (tracedWork n work)).events = u.events ++ [e] ∧
      (u.submit q task dependencies (tracedWork n work)).log =
        .submitted q.id dependencies e :: u.log ∧
      match Event.waitAll (dependencies.map u.event) with
      | .ok () => (u.submit q task dependencies (tracedWork n work)).data.2 =
          (n, e.outcome) :: u.data.2
      | .error cause => e.outcome = .error cause ∧
          (u.submit q task dependencies (tracedWork n work)).data.2 = u.data.2 := by
  refine ⟨_, rfl, rfl, ?_⟩
  simp only [submit, Queues.submit]
  cases Event.waitAll (dependencies.map u.event) with
  | ok v => rfl
  | error cause => exact ⟨rfl, rfl⟩

section Submitted

variable {u v : Usage (σ × Trace)} {queue : Nat} {dependencies : List Nat} {e : Event}

theorem event_of_lt (hevents : v.events = u.events ++ [e]) {n : Nat}
    (hn : n < u.events.length) : v.event n = u.event n := by
  simp only [event, hevents, List.getD_eq_getElem?_getD]
  rw [List.getElem?_append_left hn]

theorem event_of_submitted (hevents : v.events = u.events ++ [e]) :
    v.event u.events.length = e := by
  simp only [event, hevents, List.getD_eq_getElem?_getD]
  rw [List.getElem?_concat_length, Option.getD_some]

theorem dependencies_of_lt (hlog : v.log = .submitted queue dependencies e :: u.log) {n : Nat}
    (hn : n < (Happening.tasks u.log).length) : v.dependencies n = u.dependencies n := by
  simp only [Usage.dependencies, hlog, Happening.tasks_submitted]
  rw [List.getElem?_append_left hn]

theorem dependencies_of_submitted (hlog : v.log = .submitted queue dependencies e :: u.log) :
    v.dependencies (Happening.tasks u.log).length =
      dependencies.filter (· < (Happening.tasks u.log).length) := by
  simp only [Usage.dependencies, hlog, Happening.tasks_submitted]
  rw [List.getElem?_concat_length]

theorem waitAll_of_lt (h : u.Traced) (hevents : v.events = u.events ++ [e])
    (hlog : v.log = .submitted queue dependencies e :: u.log) {n : Nat}
    (hn : n < u.events.length) :
    (v.dependencies n).map v.event = (u.dependencies n).map u.event := by
  have hlength : (Happening.tasks u.log).length = u.events.length := by
    rw [← h.events, List.length_map]
  rw [dependencies_of_lt hlog (hlength ▸ hn)]
  refine List.map_congr_left ?_
  intro m hm
  exact event_of_lt hevents (Nat.lt_trans (lt_of_dependsOn hm) hn)

theorem waitAll_of_submitted (h : u.Traced) (hevents : v.events = u.events ++ [e])
    (hlog : v.log = .submitted queue dependencies e :: u.log) :
    Event.waitAll ((v.dependencies u.events.length).map v.event) =
      Event.waitAll (dependencies.map u.event) := by
  have hlength : (Happening.tasks u.log).length = u.events.length := by
    rw [← h.events, List.length_map]
  have hfilter : Event.waitAll ((dependencies.filter (· < u.events.length)).map u.event) =
      Event.waitAll (dependencies.map u.event) := by
    refine Event.waitAll_filter ?_
    intro m _ hm
    rw [event_of_length_le (by simpa using hm)]
    rfl
  rw [← hlength, dependencies_of_submitted hlog, hlength, ← hfilter]
  congr 1
  refine List.map_congr_left ?_
  intro m hm
  exact event_of_lt hevents (by simpa using (List.mem_filter.1 hm).2)

end Submitted

theorem traced_submit {u : Usage (σ × Trace)} (h : u.Traced) (q : Queue) (task : String)
    (dependencies : List Nat) (work : σ → Except Error Unit × σ) :
    (u.submit q task dependencies (tracedWork u.events.length work)).Traced := by
  obtain ⟨e, hevents, hlog, htrace⟩ :=
    u.submit_traced q task dependencies work u.events.length
  generalize u.submit q task dependencies (tracedWork u.events.length work) = v at *
  have hfresh : ¬u.Ran u.events.length := fun hran => Nat.lt_irrefl _ (h.numbered _ hran)
  have hold : ∀ n < u.events.length, ∀ outcome,
      (n, outcome) ∈ v.data.2 ↔ (n, outcome) ∈ u.data.2 := by
    intro n hn outcome
    split at htrace
    · rw [htrace, List.mem_cons, or_iff_right]
      intro hsame
      exact Nat.ne_of_lt hn (congrArg Prod.fst hsame)
    · rw [htrace.2]
  refine ⟨?_, ?_, ?_⟩
  · rw [hlog, Happening.tasks_submitted, List.map_append, h.events, hevents]
    rfl
  · rintro n ⟨outcome, hn⟩
    rw [hevents, List.length_append, List.length_singleton]
    split at htrace
    · rw [htrace] at hn
      rcases List.mem_cons.1 hn with hnew | hran
      · exact Nat.lt_succ_of_le (Nat.le_of_eq (congrArg Prod.fst hnew))
      · exact Nat.lt_succ_of_lt (h.numbered n ⟨outcome, hran⟩)
    · rw [htrace.2] at hn
      exact Nat.lt_succ_of_lt (h.numbered n ⟨outcome, hn⟩)
  · intro n hn
    rw [hevents, List.length_append, List.length_singleton] at hn
    rcases Nat.lt_succ_iff_lt_or_eq.1 hn with hlt | rfl
    · rw [waitAll_of_lt h hevents hlog hlt, event_of_lt hevents hlt]
      simpa only [Ran, hold n hlt] using h.settled n hlt
    · rw [waitAll_of_submitted h hevents hlog, event_of_submitted hevents]
      split at htrace
      · intro outcome
        rw [htrace, List.mem_cons]
        constructor
        · rintro (hnew | hran)
          · exact (congrArg Prod.snd hnew).symm
          · exact absurd ⟨outcome, hran⟩ hfresh
        · rintro rfl
          exact .inl rfl
      · refine ⟨?_, htrace.1⟩
        rw [Ran, htrace.2]
        exact hfresh

theorem traced_step {u : Usage (σ × Trace)} (h : u.Traced) (op : Operation σ) :
    (u.step (op.traced u.events.length)).Traced := by
  cases op with
  | create device => exact h.of_same rfl rfl rfl
  | clone handle =>
    rw [Operation.traced, step]
    cases u.handles[handle]? with
    | none => exact h
    | some q => exact h.of_same rfl rfl rfl
  | submit handle task dependencies work =>
    rw [Operation.traced, step]
    cases u.handles[handle]? with
    | none => exact h
    | some q => exact traced_submit h q task dependencies work
  | waitAndThrow handle =>
    rw [Operation.traced, step]
    cases u.handles[handle]? with
    | none => exact h
    | some q => exact h.of_same rfl rfl rfl

theorem traced_run {u : Usage (σ × Trace)} (h : u.Traced) (ops : List (Operation σ)) :
    (u.tracedRun ops).Traced := by
  induction ops generalizing u with
  | nil => exact h
  | cons op rest ih => exact ih (traced_step h op)

/-! ## Roots -/

namespace Traced

variable {u : Usage (σ × Trace)}

theorem lt_of_error {n : Nat} {cause : Error}
    (hn : (u.event n).outcome = .error cause) : n < u.events.length := by
  refine Nat.lt_of_not_le fun hle => ?_
  rw [event_of_length_le hle] at hn
  cases hn

theorem outcome_of_mem (h : u.Traced) {n : Nat} {outcome : Except Error Unit}
    (hn : (n, outcome) ∈ u.data.2) : (u.event n).outcome = outcome := by
  have hsettled := h.settled n (h.numbered n ⟨outcome, hn⟩)
  split at hsettled
  · exact (hsettled outcome).1 hn
  · exact absurd ⟨outcome, hn⟩ hsettled.1

/-- A failure is that of a task which ran, found by going to the first dependency that failed. -/
theorem exists_root (h : u.Traced) {n : Nat} {cause : Error}
    (hn : (u.event n).outcome = .error cause) :
    ∃ root, Relation.ReflTransGen u.Blames n root ∧ (root, .error cause) ∈ u.data.2 := by
  -- Dependencies have smaller numbers, so going from one to the next comes to an end.
  induction n using Nat.strongRecOn with
  | _ n ih =>
    have hsettled := h.settled n (lt_of_error hn)
    split at hsettled
    · exact ⟨n, .refl, (hsettled _).2 hn⟩
    · rename_i found hwait
      obtain ⟨hskipped, hfound⟩ := hsettled
      have hsame : cause = found := Except.error.inj (hn.symm.trans hfound)
      subst hsame
      obtain ⟨m, hfirst, hm⟩ := Event.find?_of_waitAll hwait
      have hdepends : u.DependsOn n m := List.mem_of_find?_eq_some hfirst
      obtain ⟨root, hpath, hroot⟩ := ih m (lt_of_dependsOn hdepends) hm
      exact ⟨root, .head ⟨hskipped, hfirst⟩ hpath, hroot⟩

theorem lt_length_of_dependsOn (h : u.Traced) {n m : Nat} (hn : u.DependsOn n m) :
    n < u.events.length := by
  rw [← h.events, List.length_map]
  refine Nat.lt_of_not_le fun hle => ?_
  simp only [DependsOn, Usage.dependencies, List.getElem?_eq_none hle] at hn
  cases hn

theorem ran_of_succeeded (h : u.Traced) {n : Nat} (hn : n < u.events.length)
    (hok : (u.event n).outcome = .ok ()) : u.Ran n := by
  have hsettled := h.settled n hn
  split at hsettled
  · exact ⟨.ok (), (hsettled _).2 hok⟩
  · rw [hsettled.2] at hok
    cases hok

theorem dependency_succeeds (h : u.Traced) {n m : Nat} (hn : u.Ran n) (hm : u.DependsOn n m) :
    (u.event m).outcome = .ok () := by
  have hsettled := h.settled n (h.numbered n hn)
  split at hsettled
  · rename_i hwait
    exact Event.waitAll_eq_ok_iff.1 hwait _ (List.mem_map_of_mem hm)
  · exact absurd hn hsettled.1

theorem ancestor_succeeds (h : u.Traced) {n m : Nat} (hn : u.Ran n)
    (hm : Relation.TransGen u.DependsOn n m) : (u.event m).outcome = .ok () := by
  induction hm with
  | single hdepends => exact h.dependency_succeeds hn hdepends
  | tail _ hdepends ih =>
    exact h.dependency_succeeds (h.ran_of_succeeded (h.lt_length_of_dependsOn hdepends) ih) hdepends

theorem ran_iff (h : u.Traced) {n : Nat} (hn : n < u.events.length) :
    u.Ran n ↔ ∀ m, Relation.TransGen u.DependsOn n m → ∀ cause, (m, .error cause) ∉ u.data.2 := by
  constructor
  · intro hran m hm cause hfailed
    have hok := h.ancestor_succeeds hran hm
    rw [h.outcome_of_mem hfailed] at hok
    cases hok
  · intro hancestors
    have hsettled := h.settled n hn
    split at hsettled
    · exact ⟨_, (hsettled _).2 rfl⟩
    · -- The root of the failure is an ancestor that ran and failed.
      rename_i cause hwait
      obtain ⟨m, hfirst, hm⟩ := Event.find?_of_waitAll hwait
      obtain ⟨root, hpath, hroot⟩ := h.exists_root hm
      have hdepends : u.DependsOn n m := List.mem_of_find?_eq_some hfirst
      have hblames : Relation.ReflTransGen u.DependsOn m root :=
        Relation.ReflTransGen.mono (fun _ _ hstep => List.mem_of_find?_eq_some hstep.2) _ _ hpath
      exact absurd hroot (hancestors root (.head' hdepends hblames) cause)

end Traced

/-- In every state of every run, over any number of queues: a task ran just when nothing that it
depends on, directly or not, ran and failed; the event of a task that ran has what the task
returned; and a failed event leads, from each skipped task to the first of its dependencies that
failed, to a task that ran and returned the error. That the tasks keep a trace changes nothing
else. -/
theorem failures_rooted (data : σ) (ops : List (Operation σ)) :
    let u := tracedRun ({ data := (data, []) } : Usage (σ × Trace)) ops
    u.untraced = run { data := data } ops ∧
    (∀ n < u.events.length, u.Ran n ↔
      ∀ m, Relation.TransGen u.DependsOn n m → ∀ cause, (m, .error cause) ∉ u.data.2) ∧
    (∀ n outcome, (n, outcome) ∈ u.data.2 →
      n < u.events.length ∧ (u.event n).outcome = outcome) ∧
    ∀ n cause, (u.event n).outcome = .error cause →
      ∃ root, Relation.ReflTransGen u.Blames n root ∧ (root, .error cause) ∈ u.data.2 := by
  intro u
  have htraced : u.Traced := traced_run (traced_start data) ops
  refine ⟨untraced_tracedRun _ ops, ?_, ?_, ?_⟩
  · intro n hn
    exact htraced.ran_iff hn
  · intro n outcome hn
    exact ⟨htraced.numbered n ⟨outcome, hn⟩, htraced.outcome_of_mem hn⟩
  · intro n cause hn
    exact htraced.exists_root hn

end Usage

end Offload
