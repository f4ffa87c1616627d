import Offload.Blas.Backend
import Offload.Blas.Probe
import Offload.Config
import Offload.Dft.Data
import Offload.Dft.Probe
import Offload.Rocm.Plan

/-!
# Commands of a session

A session is a list of commands on queues, events, buffers and descriptors that go by names. This
module holds the commands and the replies to them.
-/

set_option autoImplicit false

namespace Offload.Session

open Number

inductive Note
  | blas (note : Blas.Probe.Note)
  | dft (note : Dft.Probe.Note)

inductive BlasKind
  | rocblas
  | bare
  | probe (failing : Bool)

inductive DftKind
  | rocfft
  | reference (fixedScales : Bool)
  | probe (manner : Dft.Probe.Manner)

/-- A call of a batched routine in one of the three memory conventions. Buffers go by name. -/
inductive BlasCall (k : ElementKind)
  | onBuffers (call : Blas.Batch (Element k) String)
  | onSlices (call : Blas.Batch (Element k) Blas.Slice)
  | onGroups (call : Blas.Grouped (Element k) Blas.Slice)

/-- Where a call of a batched routine goes. -/
inductive Route
  | dispatched
  | rocblas
  | bare

/-- The data of a transform goes by the names of buffers. -/
structure DataCall where
  direction : Dft.Direction
  /-- The call works on the storages of the buffers as on memory of the caller. -/
  unmanaged : Bool
  args : Dft.Args String

inductive Command
  | queue (id : String) (device : Device)
  | cloneQueue (id source : String)
  | submit (queue task : String) (dependencies : List String) (event : Option String)
      (fail : Option String)
  | event (id : String)
  | waitAndThrow (queue : String)
  | buffer (k : ElementKind) (id : String) (data : Dft.Samples)
  | alias (k : ElementKind) (id source : String)
  | same (k : ElementKind) (a b : String)
  | write (k : ElementKind) (id : String) (index : Int) (parts : List Exact)
  | read (k : ElementKind) (id : String)
  | configure (c : Config)
  | names
  | registerBlas (kind : BlasKind) (name : String) (vendor : Vendor)
  | registerDft (kind : DftKind) (name : String) (vendor : Vendor)
  | unregisterBlas (name : String)
  | unregisterDft (name : String)
  | blas (route : Route) (k : ElementKind) (queue : String) (layout : Blas.Layout)
      (call : BlasCall k) (dependencies : List String) (event : Option String)
  | descriptor (id : String) (precision : Dft.Precision) (domain : Dft.Domain)
      (lengths : List Int)
  | set (id : String) (p : Dft.Parameter) (v : Dft.Value)
  | get (id : String) (p : Dft.Parameter)
  | getAll (id : String)
  | status (id : String)
  | commit (id queue : String)
  | describe (id : String)
  | planSpecs (id : String)
  | compute (id queue : String) (call : DataCall) (dependencies : List String)
      (event : Option String)

structure Status where
  settings : Dft.Settings
  backend : Option String

structure EventView where
  event : Event
  queue : Option String

inductive Answer
  | done
  | device (d : Device)
  | event (view : EventView)
  | finished (view : EventView)
  | flag (b : Bool)
  | length (n : Nat)
  | elements (rows : List (List Int))
  | names (ns : List String)
  | bothNames (blas dft : List String)
  | status (s : Status)
  | value (v : Dft.Value)
  | values (vs : List (Dft.Parameter × Dft.Value))
  | text (s : String)
  | plans (forward backward : Rocm.PlanSpec)

inductive Remark
  | names (ns : List String)
  | now (v : Dft.Value)
  | status (s : Status)
  | submitted (n : Nat)
  | ran (b : Bool)

structure Reply where
  answer : Except Error Answer
  remarks : List Remark := []
  notes : List Note := []

end Offload.Session
