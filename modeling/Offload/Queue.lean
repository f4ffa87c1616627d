import Offload.Device
import Offload.Error

/-!
# Queues and events

A queue takes tasks for one device and runs each as soon as it is submitted. A task whose
dependencies failed does not run and fails with the error of the first of them. A failure is told
twice: by the event of the task, and by the queue, which keeps it until the next call that waits for
the queue and throws what it kept.
-/

set_option autoImplicit false

namespace Offload

/-- A queue, as its users hold it. Copies of one handle stand for the same queue. -/
structure Queue where
  id : Nat
  device : Device
deriving DecidableEq, Repr

structure Event where
  task : String
  /-- The queue that ran the task; none for an event that was complete from the start. -/
  queue : Option Nat
  outcome : Except Error Unit
deriving Repr

namespace Event

def completed : Event := ⟨"completed", none, .ok ()⟩

instance : Inhabited Event := ⟨completed⟩

/-- Tasks run as they are submitted, so every event is complete. -/
def isComplete (_ : Event) : Bool := true

def waitAll : List Event → Except Error Unit
  | [] => .ok ()
  | e :: rest =>
    match e.outcome with
    | .ok () => waitAll rest
    | .error cause => .error cause

theorem waitAll_eq_ok_iff {events : List Event} :
    waitAll events = .ok () ↔ ∀ e ∈ events, e.outcome = .ok () := by
  induction events with
  | nil => simp [waitAll]
  | cons e rest ih =>
    unfold waitAll
    cases h : e.outcome with
    | ok u => simp [ih, h]
    | error cause => simp [h]

end Event

structure Account where
  submitted : Nat
  /-- The failures not thrown yet, oldest first. -/
  pending : List Error
deriving DecidableEq, Repr, Inhabited

namespace Account

def blank : Account := ⟨0, []⟩

def enter (a : Account) (outcome : Except Error Unit) : Account :=
  match outcome with
  | .ok () => { a with submitted := a.submitted + 1 }
  | .error cause => { submitted := a.submitted + 1, pending := a.pending ++ [cause] }

def due (a : Account) : Except Error Unit :=
  match a.pending with
  | [] => .ok ()
  | cause :: _ => .error cause

def settle (a : Account) : Account := { a with pending := [] }

@[simp]
theorem submitted_enter (a : Account) (outcome : Except Error Unit) :
    (a.enter outcome).submitted = a.submitted + 1 := by
  cases outcome <;> rfl

@[simp]
theorem pending_enter_ok (a : Account) (u : Unit) : (a.enter (.ok u)).pending = a.pending := rfl

@[simp]
theorem pending_enter_error (a : Account) (cause : Error) :
    (a.enter (.error cause)).pending = a.pending ++ [cause] := rfl

@[simp]
theorem submitted_settle (a : Account) : a.settle.submitted = a.submitted := rfl

end Account

structure Queues where
  accounts : List Account := []
deriving DecidableEq, Repr, Inhabited

namespace Queues

def create (qs : Queues) (device : Device) : Queue × Queues :=
  (⟨qs.accounts.length, device⟩, ⟨qs.accounts ++ [Account.blank]⟩)

def account (qs : Queues) (q : Queue) : Account := qs.accounts.getD q.id Account.blank

def modify (qs : Queues) (q : Queue) (f : Account → Account) : Queues :=
  ⟨qs.accounts.modify q.id f⟩

def submitted (qs : Queues) (q : Queue) : Nat := (qs.account q).submitted

/-- Submits a task. It works on data of its own, which stays as it is when a dependency failed. -/
def submit {σ : Type} (qs : Queues) (q : Queue) (task : String) (dependencies : List Event)
    (work : σ → Except Error Unit × σ) (data : σ) : Event × Queues × σ :=
  let (outcome, data) :=
    match Event.waitAll dependencies with
    | .ok () => work data
    | .error cause => (.error cause, data)
  (⟨task, some q.id, outcome⟩, qs.modify q (·.enter outcome), data)

/-- Waits for a queue and throws the oldest failure it kept; the others are forgotten with it. -/
def waitAndThrow (qs : Queues) (q : Queue) : Except Error Unit × Queues :=
  ((qs.account q).due, qs.modify q Account.settle)

theorem account_modify_of_ne (qs : Queues) {q other : Queue} (f : Account → Account)
    (h : q.id ≠ other.id) : (qs.modify q f).account other = qs.account other := by
  simp [account, modify, List.getD_eq_getElem?_getD, h]

theorem account_modify_self (qs : Queues) {q : Queue} (f : Account → Account)
    (h : q.id < qs.accounts.length) : (qs.modify q f).account q = f (qs.account q) := by
  simp [account, modify, List.getD_eq_getElem?_getD, h]

end Queues

end Offload
