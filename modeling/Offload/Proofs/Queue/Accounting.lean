import Offload.Proofs.Queue.Usage

/-!
# What queues report

A queue that is waited for reports the earliest failure among the tasks that were submitted to it
since it was last waited for, through whichever handle. `reports_accounted` says so of every run, by
the log of the run: the failures that a queue keeps are those that the log has since the queue last
threw, and its count of tasks is that of the log.
-/

set_option autoImplicit false

namespace Offload

variable {σ : Type}

/-! ## What the log tells of a queue -/

namespace Happening

/-- The failure of a task that was submitted to a queue. -/
def failure? (queue : Nat) : Happening → Option Error
  | submitted q _ e =>
    if q = queue then
      match e.outcome with
      | .ok () => none
      | .error cause => some cause
    else none
  | threw _ => none

def submits (queue : Nat) : Happening → Bool
  | submitted q .. => q == queue
  | threw _ => false

def throws (queue : Nat) : Happening → Bool
  | submitted .. => false
  | threw q => q == queue

def since (queue : Nat) (log : List Happening) : List Happening :=
  (log.takeWhile fun h => !h.throws queue).reverse

variable {queue : Nat} {h : Happening} {log : List Happening}

theorem failure?_eq_some_iff {cause : Error} :
    h.failure? queue = some cause ↔
      ∃ dependencies e, h = .submitted queue dependencies e ∧ e.outcome = .error cause := by
  cases h with
  | threw q => simp [failure?]
  | submitted q dependencies e =>
    simp only [failure?]
    by_cases hq : q = queue
    · subst hq
      rw [if_pos rfl]
      constructor
      · intro hsome
        cases he : e.outcome with
        | ok u => simp [he] at hsome
        | error found =>
          simp only [he, Option.some.injEq] at hsome
          exact ⟨dependencies, e, rfl, hsome ▸ he⟩
      · rintro ⟨_, _, hsame, he⟩
        cases hsame
        rw [he]
    · simp [hq]

theorem failure?_eq_none_iff :
    h.failure? queue = none ↔
      ∀ dependencies e, h = .submitted queue dependencies e → e.outcome = .ok () := by
  rw [Option.eq_none_iff_forall_ne_some]
  constructor
  · intro hnone dependencies e he
    cases ho : e.outcome with
    | ok u => rfl
    | error cause => exact absurd (failure?_eq_some_iff.2 ⟨_, _, he, ho⟩) (hnone cause)
  · intro hok cause hsome
    obtain ⟨dependencies, e, he, ho⟩ := failure?_eq_some_iff.1 hsome
    rw [hok dependencies e he] at ho
    cases ho

theorem since_cons_of_throws (hthrows : h.throws queue = true) : since queue (h :: log) = [] := by
  simp [since, hthrows]

theorem since_cons (hthrows : h.throws queue = false) :
    since queue (h :: log) = since queue log ++ [h] := by
  simp [since, hthrows]

/-- The failures of a queue's tasks since it was last waited for, oldest first. -/
def failures (queue : Nat) (log : List Happening) : List Error :=
  (since queue log).filterMap (failure? queue)

theorem failures_cons (hthrows : h.throws queue = false) :
    failures queue (h :: log) = failures queue log ++ (h.failure? queue).toList := by
  rw [failures, failures, since_cons hthrows, List.filterMap_append]
  cases hf : h.failure? queue <;> simp [hf]

theorem failures_head?_eq_some_iff {cause : Error} :
    (failures queue log).head? = some cause ↔
      ∃ earlier dependencies e later,
        since queue log = earlier ++ .submitted queue dependencies e :: later ∧
        e.outcome = .error cause ∧
        ∀ others d, .submitted queue others d ∈ earlier → d.outcome = .ok () := by
  rw [failures, List.head?_filterMap, List.findSome?_eq_some_iff]
  constructor
  · rintro ⟨earlier, h, later, hsplit, hfailed, hearlier⟩
    obtain ⟨dependencies, e, rfl, he⟩ := failure?_eq_some_iff.1 hfailed
    refine ⟨earlier, dependencies, e, later, hsplit, he, ?_⟩
    intro others d hd
    exact failure?_eq_none_iff.1 (hearlier _ hd) others d rfl
  · rintro ⟨earlier, dependencies, e, later, hsplit, he, hearlier⟩
    refine ⟨earlier, _, later, hsplit, failure?_eq_some_iff.2 ⟨_, _, rfl, he⟩, ?_⟩
    intro x hx
    rw [failure?_eq_none_iff]
    rintro others d rfl
    exact hearlier others d hx

theorem failures_eq_nil_iff :
    failures queue log = [] ↔
      ∀ dependencies e, .submitted queue dependencies e ∈ since queue log →
        e.outcome = .ok () := by
  rw [failures, List.filterMap_eq_nil_iff]
  constructor
  · intro hnone dependencies e he
    exact failure?_eq_none_iff.1 (hnone _ he) dependencies e rfl
  · intro hok x hx
    rw [failure?_eq_none_iff]
    rintro dependencies e rfl
    exact hok dependencies e hx

end Happening

/-! ## The books -/

namespace Account

theorem due_eq_error_iff {a : Account} {cause : Error} :
    a.due = .error cause ↔ a.pending.head? = some cause := by
  unfold due
  cases a.pending <;> simp

theorem due_eq_ok_iff {a : Account} : a.due = .ok () ↔ a.pending = [] := by
  unfold due
  cases a.pending <;> simp

end Account

namespace Queues

theorem account_modify (qs : Queues) {q : Queue} (f : Account → Account)
    (h : q.id < qs.accounts.length) (other : Queue) :
    (qs.modify q f).account other =
      if other.id = q.id then f (qs.account other) else qs.account other := by
  by_cases hid : other.id = q.id
  · have hself := account_modify_self qs f h
    rw [if_pos hid]
    simpa only [account, hid] using hself
  · rw [if_neg hid]
    exact account_modify_of_ne qs f (Ne.symm hid)

theorem account_create_other (qs : Queues) (device : Device) (other : Queue) :
    (qs.create device).2.account other = qs.account other := by
  simp only [account, create, List.getD_eq_getElem?_getD]
  rcases Nat.lt_trichotomy other.id qs.accounts.length with hlt | heq | hgt
  · rw [List.getElem?_append_left hlt]
  · rw [heq, List.getElem?_concat_length, List.getElem?_eq_none (Nat.le_refl _)]
    rfl
  · rw [List.getElem?_eq_none (by simp; omega), List.getElem?_eq_none (by omega)]

theorem queues_submit (qs : Queues) (q : Queue) (task : String) (dependencies : List Event)
    (work : σ → Except Error Unit × σ) (data : σ) :
    (qs.submit q task dependencies work data).2.1 =
      qs.modify q (·.enter (qs.submit q task dependencies work data).1.outcome) := rfl

theorem length_accounts_modify (qs : Queues) (q : Queue) (f : Account → Account) :
    (qs.modify q f).accounts.length = qs.accounts.length :=
  List.length_modify ..

end Queues

/-! ## Runs -/

namespace Usage

open Happening

/-- The books of all queues agree with the log, and all handles are those of queues with books. -/
structure Accounted (u : Usage σ) : Prop where
  held : ∀ q ∈ u.handles, q.id < u.queues.accounts.length
  pending : ∀ q, (u.queues.account q).pending = failures q.id u.log
  submitted : ∀ q, (u.queues.account q).submitted = u.log.countP (submits q.id)

theorem accounted_start (data : σ) : Accounted { data := data } where
  held := by
    intro q hq
    cases hq
  pending q := by rfl
  submitted q := by rfl

theorem accounted_create {u : Usage σ} (h : u.Accounted) (device : Device) :
    (u.create device).Accounted where
  held := by
    intro q hq
    have hlength : (u.create device).queues.accounts.length = u.queues.accounts.length + 1 :=
      List.length_append
    rw [hlength]
    rcases List.mem_append.1 hq with hold | hnew
    · exact Nat.lt_succ_of_lt (h.held q hold)
    · rw [List.mem_singleton.1 hnew]
      exact Nat.lt_succ_self _
  pending q := by
    rw [create, Queues.account_create_other]
    exact h.pending q
  submitted q := by
    rw [create, Queues.account_create_other]
    exact h.submitted q

theorem accounted_clone {u : Usage σ} (h : u.Accounted) {q : Queue} (hq : q ∈ u.handles) :
    (u.clone q).Accounted where
  held := by
    intro other hother
    rcases List.mem_append.1 hother with hold | hnew
    · exact h.held other hold
    · rw [List.mem_singleton.1 hnew]
      exact h.held q hq
  pending := h.pending
  submitted := h.submitted

theorem accounted_submit {u : Usage σ} (h : u.Accounted) {q : Queue} (hq : q ∈ u.handles)
    (task : String) (dependencies : List Nat) (work : σ → Except Error Unit × σ) :
    (u.submit q task dependencies work).Accounted := by
  have hlength := h.held q hq
  obtain ⟨e, hlog, hqueues⟩ : ∃ e : Event,
      (u.submit q task dependencies work).log = .submitted q.id dependencies e :: u.log ∧
      (u.submit q task dependencies work).queues = u.queues.modify q (·.enter e.outcome) :=
    ⟨_, rfl, Queues.queues_submit ..⟩
  refine ⟨?_, ?_, ?_⟩
  · intro other hother
    rw [hqueues, Queues.length_accounts_modify]
    exact h.held other hother
  · intro other
    rw [hqueues, hlog, Queues.account_modify _ _ hlength, failures_cons rfl, ← h.pending]
    by_cases hid : other.id = q.id
    · rw [if_pos hid, failure?, if_pos hid.symm]
      cases e.outcome with
      | ok v => simp
      | error cause => simp
    · rw [if_neg hid, failure?, if_neg (Ne.symm hid)]
      simp
  · intro other
    rw [hqueues, hlog, Queues.account_modify _ _ hlength, List.countP_cons, ← h.submitted]
    by_cases hid : other.id = q.id
    · rw [if_pos hid, Account.submitted_enter, if_pos (by simpa [submits] using hid.symm)]
    · rw [if_neg hid, if_neg (by simpa [submits] using Ne.symm hid), Nat.add_zero]

theorem accounted_waitAndThrow {u : Usage σ} (h : u.Accounted) {q : Queue}
    (hq : q ∈ u.handles) : (u.waitAndThrow q).Accounted := by
  have hlength := h.held q hq
  have hqueues : (u.waitAndThrow q).queues = u.queues.modify q Account.settle := rfl
  have hlog : (u.waitAndThrow q).log = .threw q.id :: u.log := rfl
  refine ⟨?_, ?_, ?_⟩
  · intro other hother
    rw [hqueues, Queues.length_accounts_modify]
    exact h.held other hother
  · intro other
    rw [hqueues, hlog, Queues.account_modify _ _ hlength]
    by_cases hid : other.id = q.id
    · have hthrows : (Happening.threw q.id).throws other.id = true := by simp [throws, hid]
      rw [if_pos hid, failures, since_cons_of_throws hthrows]
      rfl
    · have hthrows : (Happening.threw q.id).throws other.id = false := by
        simpa [throws] using Ne.symm hid
      rw [if_neg hid, failures_cons hthrows, ← h.pending]
      simp [failure?]
  · intro other
    rw [hqueues, hlog, Queues.account_modify _ _ hlength, List.countP_cons, ← h.submitted]
    by_cases hid : other.id = q.id
    · rw [if_pos hid, Account.submitted_settle]
      rfl
    · rw [if_neg hid]
      rfl

theorem accounted_run (data : σ) (ops : List (Operation σ)) :
    (run { data := data } ops).Accounted :=
  run_induction (fun _ device h => accounted_create h device)
    (fun _ _ hq h => accounted_clone h hq)
    (fun _ _ hq task dependencies work h => accounted_submit h hq task dependencies work)
    (fun _ _ hq h => accounted_waitAndThrow h hq) (accounted_start data) ops

theorem account_step {u : Usage σ} (q : Queue) {op : Operation σ} (h : op.target u ≠ some q.id) :
    (u.step op).queues.account q = u.queues.account q := by
  cases op with
  | create device => exact Queues.account_create_other u.queues device q
  | clone n =>
    rw [step]
    cases u.handles[n]? <;> rfl
  | submit n task dependencies work =>
    rw [Operation.target] at h
    rw [step]
    cases hn : u.handles[n]? with
    | none => rfl
    | some other =>
      rw [hn, Option.map_some, ne_eq, Option.some.injEq] at h
      exact Queues.account_modify_of_ne _ _ h
  | waitAndThrow n =>
    rw [Operation.target] at h
    rw [step]
    cases hn : u.handles[n]? with
    | none => rfl
    | some other =>
      rw [hn, Option.map_some, ne_eq, Option.some.injEq] at h
      exact Queues.account_modify_of_ne _ _ h

/-- In every state of every run, a queue that is waited for through some handle throws the failure of
the earliest task that was submitted to it and failed since it was last waited for, and nothing if
there is none. It counts the tasks that were submitted to it. Operations that go to other queues
change nothing of that, and a new queue is another one. -/
theorem reports_accounted (data : σ) (ops : List (Operation σ)) (q : Queue)
    (held : q ∈ (run { data := data } ops).handles) :
    let u := run { data := data } ops
    (∀ cause, (u.queues.waitAndThrow q).1 = .error cause ↔
      ∃ earlier dependencies e later,
        since q.id u.log = earlier ++ .submitted q.id dependencies e :: later ∧
        e.outcome = .error cause ∧
        ∀ others d, .submitted q.id others d ∈ earlier → d.outcome = .ok ()) ∧
    ((u.queues.waitAndThrow q).1 = .ok () ↔
      ∀ dependencies e, .submitted q.id dependencies e ∈ since q.id u.log →
        e.outcome = .ok ()) ∧
    u.queues.submitted q = u.log.countP (submits q.id) ∧
    (∀ op : Operation σ, op.target u ≠ some q.id →
      ((u.step op).queues.waitAndThrow q).1 = (u.queues.waitAndThrow q).1 ∧
      (u.step op).queues.submitted q = u.queues.submitted q) ∧
    ∀ device, (u.queues.create device).1.id ≠ q.id := by
  intro u
  have haccounted : u.Accounted := accounted_run data ops
  have hpending := haccounted.pending q
  refine ⟨?_, ?_, haccounted.submitted q, ?_, ?_⟩
  · intro cause
    rw [Queues.waitAndThrow, Account.due_eq_error_iff, hpending]
    exact failures_head?_eq_some_iff
  · rw [Queues.waitAndThrow, Account.due_eq_ok_iff, hpending]
    exact failures_eq_nil_iff
  · intro op hother
    have haccount := account_step q hother
    constructor
    · rw [Queues.waitAndThrow, Queues.waitAndThrow, haccount]
    · rw [Queues.submitted, Queues.submitted, haccount]
  · intro device
    exact (Nat.ne_of_lt (haccounted.held q held)).symm

theorem reports_accounted_two :
    let cause : Error := .invalidArgument "blas" "task" "bad lda"
    let ops : List (Operation Unit) :=
      [.create Device.host, .create Device.host, .clone 1,
        .submit 0 "first" [] (fun u => (.error cause, u)), .waitAndThrow 0,
        .submit 2 "second" [7, 0, 0] (fun u => (.ok (), u))]
    let u := run { data := () } ops
    (⟨1, Device.host⟩ : Queue) ∈ u.handles ∧
      (u.queues.waitAndThrow ⟨1, Device.host⟩).1 = .error cause ∧
      u.queues.submitted ⟨1, Device.host⟩ = 1 := by
  intro cause ops u
  have held : (⟨1, Device.host⟩ : Queue) ∈ u.handles := by decide
  obtain ⟨hthrown, -, hsubmitted, -⟩ := reports_accounted () ops ⟨1, Device.host⟩ held
  refine ⟨held, (hthrown cause).2 ?_, hsubmitted⟩
  refine ⟨[.submitted 0 [] ⟨"first", some 0, .error cause⟩, .threw 0], [7, 0, 0],
    ⟨"second", some 1, .error cause⟩, [], rfl, rfl, ?_⟩
  intro others d hd
  simp at hd

end Usage

end Offload
