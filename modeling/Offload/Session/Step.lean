import Offload.Blas.Dispatch
import Offload.Dft.Describe
import Offload.Session.State

/-!
# Running a session

`step` carries out one command, and `run` a list of them from the initial state. Both are total: a
name that stands for nothing is taken for something empty.
-/

set_option autoImplicit false

namespace Offload.Session

open Number

def Status.of (d : Dft.Descriptor SessionPlan) : Status := ⟨d.settings, d.backend?⟩

def dataKind (settings : Dft.Settings) (isComplex : Bool) : ElementKind :=
  match settings.precision, isComplex with
  | .single, false => .single
  | .double, false => .double
  | .single, true => .complexSingle
  | .double, true => .complexDouble

/-- The storages of the buffers of a call. Data of the forward domain has the type of that domain,
data of the backward domain is complex, and the halves of split data are real. -/
def storages (s : State) (settings : Dft.Settings) (call : DataCall) : Dft.Args Nat :=
  let real := s.storage (dataKind settings false)
  let complex := s.storage (dataKind settings true)
  let forward := if settings.domain = .real then real else complex
  match call.args with
  | .inPlace data => .inPlace (forward data)
  | .inPlaceSplit re im => .inPlaceSplit (real re) (real im)
  | .outOfPlace input output =>
    match call.direction with
    | .forward => .outOfPlace (forward input) (complex output)
    | .backward => .outOfPlace (complex input) (forward output)
  | .outOfPlaceSplit inputRe inputIm outputRe outputIm =>
    .outOfPlaceSplit (real inputRe) (real inputIm) (real outputRe) (real outputIm)

namespace State

variable (s : State)

/-- A descriptor that was never made stands for an empty one. -/
def descriptor (id : String) : Dft.Descriptor SessionPlan :=
  (s.descriptors.get? id).getD ⟨.initial .single .complex [1], none⟩

def putDescriptor (id : String) (d : Dft.Descriptor SessionPlan) : State :=
  { s with descriptors := s.descriptors.put id d }

def finishEvent (queue : String) (name : Option String) (answer : Except Error Event) :
    Reply × State :=
  match answer with
  | .error e => ({ answer := .error e, remarks := [.submitted (s.submitted queue)] }, s)
  | .ok event =>
    let s := s.keep name event
    ({ answer := .ok (.finished (s.view event)), remarks := [.submitted (s.submitted queue)] }, s)

def finishWait (queue : String) (answer : Except Error Unit) : Reply × State :=
  ({ answer := answer.map fun () => .done, remarks := [.submitted (s.submitted queue)] }, s)

/-- The factor by which elements are read: enough for the digits that a type is good for. -/
def readFactor (k : ElementKind) : Nat :=
  match k with
  | .double | .complexDouble => 1000000
  | _ => 1000

def submit (queue task : String) (dependencies : List String) (event : Option String)
    (fail : Option String) : Reply × State :=
  let outcome : Except Error Unit := match fail with
    | none => .ok ()
    | some message => .error (.invalidArgument "blas" "task" message)
  let (done, machine, ran) := s.machine.submit (s.queue queue) task
    (dependencies.map s.event) (fun _ => (outcome, true)) false
  let (reply, s) := { s with machine }.finishEvent queue event (.ok done)
  ({ reply with remarks := .ran ran :: reply.remarks }, s)

def callBlas (route : Route) (k : ElementKind) (queue : String) (layout : Blas.Layout)
    (call : BlasCall k) (dependencies : List String) (event : Option String) : Reply × State :=
  let q := s.queue queue
  let direct : Option (Blas.Backend (Machine Note)) := match route with
    | .dispatched => none
    | .rocblas => some Blas.RocBlas.backend
    | .bare => some (.bare "bare" fun _ => true)
  let dependencies := dependencies.map s.event
  match call with
  | .onBuffers call =>
    let call := call.map (s.blasBuffer k)
    let (answer, machine) := match direct with
      | none => Blas.callOnBuffers s.blas k q layout call s.machine
      | some backend => backend.onBuffers k q layout call s.machine
    { s with machine }.finishWait queue answer
  | .onSlices call =>
    let (answer, machine) := match direct with
      | none => Blas.callOnSlices s.blas k q layout call dependencies s.machine
      | some backend => backend.onSlices k q layout call dependencies s.machine
    { s with machine }.finishEvent queue event answer
  | .onGroups call =>
    let (answer, machine) := match direct with
      | none => Blas.callOnGroups s.blas k q layout call dependencies s.machine
      | some backend => backend.onGroups k q layout call dependencies s.machine
    { s with machine }.finishEvent queue event answer

def compute (id queue : String) (call : DataCall) (dependencies : List String)
    (event : Option String) : Reply × State :=
  let d := s.descriptor id
  let buffers := storages s d.settings call
  if call.unmanaged then
    let (answer, memory, machine) :=
      d.computeIn call.direction buffers (dependencies.map s.event) s.memory s.machine
    { s with memory, machine }.finishEvent queue event answer
  else
    let (answer, memory, machine) :=
      d.computeBuffers call.direction buffers s.memory s.machine
    { s with memory, machine }.finishWait queue answer

def blasBackend (kind : BlasKind) (name : String) (vendor : Vendor) :
    Blas.Backend (Machine Note) :=
  match kind with
  | .rocblas => Blas.RocBlas.backend
  | .bare => .bare name fun device => device.vendor == vendor
  | .probe failing => Blas.Probe.backend .blas name vendor failing

def dftBackend (kind : DftKind) (name : String) (vendor : Vendor) :
    Dft.Backend (Machine Note) SessionPlan :=
  match kind with
  | .rocfft => Dft.RocFft.backend
  | .reference fixedScales => Dft.Reference.backend .reference fixedScales
  | .probe manner => Dft.Probe.backend .dft .probe name vendor manner

end State

def execute (s : State) : Command → Reply × State
  | .queue id device =>
    let (q, queues) := s.machine.queues.create device
    ({ answer := .ok (.device device) },
      { s with machine := { s.machine with queues }, queues := s.queues.put id q })
  | .cloneQueue id source =>
    let q := s.queue source
    let s := { s with queues := s.queues.put id q }
    ({ answer := .ok (.flag ((s.queue id).id == q.id)) }, s)
  | .submit queue task dependencies event fail => s.submit queue task dependencies event fail
  | .event id => ({ answer := .ok (.event (s.view (s.event id))) }, s)
  | .waitAndThrow queue =>
    let (answer, queues) := s.machine.queues.waitAndThrow (s.queue queue)
    ({ answer := answer.map fun () => .done },
      { s with machine := { s.machine with queues } })
  | .buffer k id data =>
    let (storage, memory) := s.memory.alloc data
    ({ answer := .ok (.length data.length) },
      { s with memory, buffers := s.buffers.put (k, id) storage })
  | .alias k id source =>
    let storage := s.storage k source
    ({ answer := .ok (.flag true) }, { s with buffers := s.buffers.put (k, id) storage })
  | .same k a b => ({ answer := .ok (.flag (s.storage k a == s.storage k b)) }, s)
  | .write k id index parts =>
    match (s.contents k id).write? index parts with
    | none => ({ answer := .ok (.flag false) }, s)
    | some data =>
      ({ answer := .ok (.flag true) }, { s with memory := s.memory.put (s.storage k id) data })
  | .read k id =>
    let rows := (s.contents k id).parts.map (·.map (Double.scaledInt (State.readFactor k)))
    ({ answer := .ok (.elements rows) }, s)
  | .configure c =>
    ({ answer := .ok .done }, { s with blas := s.blas.configure c, dft := s.dft.configure c })
  | .names => ({ answer := .ok (.bothNames s.blas.names s.dft.names) }, s)
  | .registerBlas kind name vendor =>
    let blas := s.blas.register (State.blasBackend kind name vendor)
    ({ answer := .ok (.names blas.names) }, { s with blas })
  | .registerDft kind name vendor =>
    let dft := s.dft.register (State.dftBackend kind name vendor)
    ({ answer := .ok (.names dft.names) }, { s with dft })
  | .unregisterBlas name =>
    let blas := s.blas.unregister name
    ({ answer := .ok (.flag (s.blas.lists name)), remarks := [.names blas.names] }, { s with blas })
  | .unregisterDft name =>
    let dft := s.dft.unregister name
    ({ answer := .ok (.flag (s.dft.lists name)), remarks := [.names dft.names] }, { s with dft })
  | .blas route k queue layout call dependencies event =>
    s.callBlas route k queue layout call dependencies event
  | .descriptor id precision domain lengths =>
    match (Dft.Descriptor.new precision domain lengths : Except Error (Dft.Descriptor SessionPlan)) with
    | .error e => ({ answer := .error e }, s)
    | .ok d => ({ answer := .ok (.status (.of d)) }, s.putDescriptor id d)
  | .set id p v =>
    let (answer, d, machine) := (s.descriptor id).set p v s.machine
    ({ answer := answer.map fun () => .done, remarks := [.now (d.get p)] },
      { s with machine }.putDescriptor id d)
  | .get id p => ({ answer := .ok (.value ((s.descriptor id).get p)) }, s)
  | .getAll id =>
    let d := s.descriptor id
    ({ answer := .ok (.values (Dft.Parameter.all.map fun p => (p, d.get p))) }, s)
  | .status id => ({ answer := .ok (.status (.of (s.descriptor id))) }, s)
  | .commit id queue =>
    let (answer, d, machine) := (s.descriptor id).commit s.dft (s.queue queue) s.machine
    ({ answer := answer.map fun () => .done, remarks := [.status (.of d)] },
      { s with machine }.putDescriptor id d)
  | .describe id => ({ answer := .ok (.text (s.descriptor id).describe) }, s)
  | .planSpecs id =>
    match Dft.RocFft.planSpecs (s.descriptor id).settings with
    | .error e => ({ answer := .error e.toError }, s)
    | .ok (forward, backward) => ({ answer := .ok (.plans forward backward) }, s)
  | .compute id queue call dependencies event => s.compute id queue call dependencies event

def step (s : State) (c : Command) : Reply × State :=
  let (reply, s) := execute s c
  ({ reply with notes := s.machine.notes.reverse },
    { s with machine := { s.machine with notes := [] } })

def replies (s : State) : List Command → List Reply
  | [] => []
  | c :: rest =>
    let (reply, s) := step s c
    reply :: replies s rest

def run (commands : List Command) : List Reply := replies State.initial commands

end Offload.Session
