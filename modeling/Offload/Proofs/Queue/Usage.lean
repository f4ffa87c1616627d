import Offload.Queue

/-!
# Queues in use

Queues are made and cloned, tasks are submitted to them, and they are waited for, in any order and
through any handle. A task may depend on all that was submitted before, to whichever queue, and its
outcome on data that all tasks share. A log tells what was done, latest first.
-/

set_option autoImplicit false

namespace Offload

variable {σ : Type}

/-- What was done with a queue, by the number of the queue. -/
inductive Happening
  | submitted (queue : Nat) (dependencies : List Nat) (event : Event)
  | threw (queue : Nat)

/-- Queues with all that their users hold. -/
structure Usage (σ : Type) where
  queues : Queues := {}
  handles : List Queue := []
  events : List Event := []
  log : List Happening := []
  data : σ

/-- One thing to do, through the handle of some number; without the handle it comes to nothing. -/
inductive Operation (σ : Type)
  | create (device : Device)
  | clone (handle : Nat)
  | submit (handle : Nat) (task : String) (dependencies : List Nat)
      (work : σ → Except Error Unit × σ)
  | waitAndThrow (handle : Nat)

namespace Usage

/-- The event of some number; numbers that no event has yet stand for one that was complete from the
start. -/
def event (u : Usage σ) (n : Nat) : Event := u.events.getD n Event.completed

def create (u : Usage σ) (device : Device) : Usage σ :=
  let (q, queues) := u.queues.create device
  { u with queues, handles := u.handles ++ [q] }

def clone (u : Usage σ) (q : Queue) : Usage σ := { u with handles := u.handles ++ [q] }

def submit (u : Usage σ) (q : Queue) (task : String) (dependencies : List Nat)
    (work : σ → Except Error Unit × σ) : Usage σ :=
  let (event, queues, data) :=
    u.queues.submit q task (dependencies.map u.event) work u.data
  { u with
    queues
    events := u.events ++ [event]
    log := .submitted q.id dependencies event :: u.log
    data }

def waitAndThrow (u : Usage σ) (q : Queue) : Usage σ :=
  { u with queues := (u.queues.waitAndThrow q).2, log := .threw q.id :: u.log }

def step (u : Usage σ) : Operation σ → Usage σ
  | .create device => u.create device
  | .clone n => (u.handles[n]?).elim u u.clone
  | .submit n task dependencies work =>
    (u.handles[n]?).elim u fun q => u.submit q task dependencies work
  | .waitAndThrow n => (u.handles[n]?).elim u u.waitAndThrow

def run (u : Usage σ) : List (Operation σ) → Usage σ
  | [] => u
  | op :: rest => (u.step op).run rest

theorem run_induction {P : Usage σ → Prop}
    (create_keeps : ∀ u device, P u → P (u.create device))
    (clone_keeps : ∀ u, ∀ q ∈ u.handles, P u → P (u.clone q))
    (submit_keeps : ∀ u, ∀ q ∈ u.handles, ∀ task dependencies work, P u →
      P (u.submit q task dependencies work))
    (wait_keeps : ∀ u, ∀ q ∈ u.handles, P u → P (u.waitAndThrow q))
    {u : Usage σ} (h : P u) (ops : List (Operation σ)) : P (u.run ops) := by
  have hstep : ∀ u op, P u → P (u.step op) := by
    intro u op hu
    cases op with
    | create device => exact create_keeps u device hu
    | clone n =>
      rw [step]
      cases hn : u.handles[n]? with
      | none => exact hu
      | some q => exact clone_keeps u q (List.mem_of_getElem? hn) hu
    | submit n task dependencies work =>
      rw [step]
      cases hn : u.handles[n]? with
      | none => exact hu
      | some q => exact submit_keeps u q (List.mem_of_getElem? hn) task dependencies work hu
    | waitAndThrow n =>
      rw [step]
      cases hn : u.handles[n]? with
      | none => exact hu
      | some q => exact wait_keeps u q (List.mem_of_getElem? hn) hu
  induction ops generalizing u with
  | nil => exact h
  | cons op rest ih => exact ih (hstep u op h)

end Usage

def Operation.target (u : Usage σ) : Operation σ → Option Nat
  | .create _ | .clone _ => none
  | .submit n .. | .waitAndThrow n => (u.handles[n]?).map (·.id)

end Offload
