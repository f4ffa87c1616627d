import Offload.Dft.Backend

/-!
# Probes for transforms

A probe is a backend that takes a note of every call it gets and runs an empty task for each
transform. Probes of other manners than the plain one refuse some of the calls.
-/

set_option autoImplicit false

namespace Offload.Dft.Probe

open Number

inductive Manner
  | plain
  | fixedScale
  | refuseCommit
  | failTask
  | refuseExecute
deriving DecidableEq, Repr

structure View where
  format : Format
  isComplex : Bool
  length : Nat
deriving DecidableEq, Repr

inductive Note
  | commit (backend : String) (settings : Settings)
  | execute (backend : String) (direction : Direction) (placement : Placement) (storage : Storage)
      (views : List View) (dependencies : Nat)
  | setScale (backend : String) (direction : Direction) (scale : Double)

def View.of (s : Samples) : View := ⟨s.format, s.isComplex, s.length⟩

def refused (function : String) : Error := .unimplemented "dft" function "by the fixture"

def outcome (manner : Manner) (direction : Direction) : Except Error Unit :=
  if manner = .failTask then .error (.backend "fixture" direction.task 42 "boom") else .ok ()

structure ProbePlan where
  backend : String
  manner : Manner

variable {ν : Type}

def execute (embed : Note → ν) (plan : ProbePlan) (queue : Queue) (direction : Direction)
    (args : Args Samples) (dependencies : List Event) (m : Machine ν) :
    Except Error Event × Args Samples × Machine ν :=
  let m := m.note (embed (.execute plan.backend direction args.placement args.storage
    (args.toList.map View.of) dependencies.length))
  if plan.manner = .refuseExecute then (.error (refused direction.task), args, m)
  else
    let (event, m, args) := m.submit queue direction.task dependencies
      (fun args => (outcome plan.manner direction, args)) args
    (.ok event, args, m)

/-- Takes a note of a new scale, unless the plan keeps its scales. -/
def setScale (embed : Note → ν) (plan : ProbePlan) (direction : Direction) (x : Double) :
    Action (Machine ν) ProbePlan := fun m =>
  if plan.manner = .fixedScale then (.error (Dft.fixedScale direction), m)
  else (.ok plan, m.note (embed (.setScale plan.backend direction x)))

/-- A probe that serves the devices of a vendor; the two functions make its notes and plans part of
larger types. -/
def backend {π : Type} (embed : Note → ν) (embedPlan : ProbePlan → π) (name : String)
    (vendor : Vendor) (manner : Manner) : Backend (Machine ν) π where
  name
  supports device := device.vendor == vendor
  commit _ settings m :=
    let m := m.note (embed (.commit name settings))
    if manner = .refuseCommit then (.error (refused "commit"), m)
    else (.ok (embedPlan ⟨name, manner⟩), m)

end Offload.Dft.Probe
