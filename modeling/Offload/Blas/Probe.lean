import Offload.Blas.Backend

/-!
# Probes for the batched routines

A probe is a backend that takes a note of every call it gets and runs an empty task for it. A failing
probe lets the task fail.
-/

set_option autoImplicit false

namespace Offload.Blas.Probe

/-- What a probe writes down of one argument. Operands are known by their lengths. -/
inductive Item (α : Type)
  | integer (n : Int)
  | scalar (x : α)
  | length (n : Nat)
  | groups (records : List (List (Item α)))
  | lengths (ns : List Nat)
  | dependencies (count : Nat)

structure Note where
  backend : String
  method : String
  kind : ElementKind
  layout : Layout
  items : List (Item (Element kind))

def Item.ofArgument {α β : Type} (length : β → Nat) : Argument α β → Item α
  | .integer n => .integer n
  | .scalar x => .scalar x
  | .operand data => .length (length data)

def batchItems {α β : Type} (length : β → Nat) (call : Batch α β) : List (Item α) :=
  call.arguments.map (Item.ofArgument length)

def groupedItems {α : Type} (call : Grouped α Slice) : List (Item α) :=
  .groups (call.records.map (·.map (Item.ofArgument Slice.length))) ::
    call.operands.map fun (_, operands) => .lengths (operands.map Slice.length)

def outcome (name : String) (failing : Bool) (routine : Routine) : Except Error Unit :=
  if failing then .error (.backend "fixture" routine.name (-7) s!"{name} failed") else .ok ()

variable {ν : Type}

def answer (embed : Note → ν) (note : Note) (failing : Bool) (queue : Queue) (routine : Routine)
    (dependencies : List Event) (m : Machine ν) : Event × Machine ν :=
  let (event, m, ()) := (m.note (embed note)).submit queue routine.name dependencies
    (fun () => (outcome note.backend failing routine, ())) ()
  (event, m)

/-- A probe that serves the devices of a vendor; `embed` makes its notes part of a larger type of
notes. -/
def backend (embed : Note → ν) (name : String) (vendor : Vendor) (failing : Bool) :
    Backend (Machine ν) where
  name
  supports device := device.vendor == vendor
  routines kind := .ofCalls
    (fun queue layout call m =>
      let method := call.routine.name ++ "_buffer"
      let note : Note := ⟨name, method, kind, layout, batchItems Buffer.length call⟩
      let (event, m) := answer embed note failing queue call.routine [] m
      (event.outcome, m))
    (fun queue layout call dependencies m =>
      let method := call.routine.name ++ "_strided"
      let items := batchItems Slice.length call ++ [.dependencies dependencies.length]
      let (event, m) :=
        answer embed ⟨name, method, kind, layout, items⟩ failing queue call.routine dependencies m
      (.ok event, m))
    (fun queue layout call dependencies m =>
      let method := call.routine.name ++ "_group"
      let items := groupedItems call ++ [.dependencies dependencies.length]
      let (event, m) :=
        answer embed ⟨name, method, kind, layout, items⟩ failing queue call.routine dependencies m
      (.ok event, m))

end Offload.Blas.Probe
