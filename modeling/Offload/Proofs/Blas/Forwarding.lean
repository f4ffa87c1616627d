import Mathlib.Algebra.Order.BigOperators.Group.List
import Mathlib.Algebra.Order.Ring.Int
import Offload.Blas.Dispatch
import Offload.Proofs.Registry

/-!
# Forwarding of batched calls

A batched call that the front-end accepts reaches one backend as it was made; one that it refuses
reaches none and changes nothing. `Request` puts the calls of the three memory conventions under one
type, and `Request.Valid` says which of them are accepted, without the order of the checks. To see
what backends are asked, they are made to keep a log of the requests that arrive.
`forwarded_or_refused` says when there is an entry in it, and that this entry is the request.
-/

set_option autoImplicit false

namespace Offload.Blas

open Number

variable {ω : Type} {k : ElementKind}

/-! ## The checks of a call -/

def Batch.check {α : Type} : Batch α Buffer → Except Fault Unit
  | .copy c => checkBuffers c.batchSize ("y", c.y.data.storage) [("x", c.x.data.storage)]
  | .axpy c => checkBuffers c.batchSize ("y", c.y.data.storage) [("x", c.x.data.storage)]
  | .gemv c =>
    checkBuffers c.batchSize ("y", c.y.data.storage)
      [("a", c.a.data.storage), ("x", c.x.data.storage)]
  | .dgmm c =>
    checkBuffers c.batchSize ("c", c.c.data.storage)
      [("a", c.a.data.storage), ("x", c.x.data.storage)]
  | .gemm c =>
    checkBuffers c.batchSize ("c", c.c.data.storage)
      [("a", c.a.data.storage), ("b", c.b.data.storage)]
  | .trsm c => checkBuffers c.batchSize ("b", c.b.data.storage) [("a", c.a.data.storage)]
  | .syrk c => checkBuffers c.batchSize ("c", c.c.data.storage) [("a", c.a.data.storage)]
  | .omatcopy c => checkBuffers c.batchSize ("b", c.b.data.storage) [("a", c.a.data.storage)]
  | .imatcopy c => checkBatchSize c.batchSize
  | .omatadd c =>
    checkBuffers c.batchSize ("c", c.c.data.storage)
      [("a", c.a.data.storage), ("b", c.b.data.storage)]

def Grouped.check {α β : Type} (call : Grouped α β) : Except Fault Unit :=
  checkGroups call.sizes call.operands

/-! ## Requests -/

/-- A call in one of the memory conventions. -/
inductive Request (k : ElementKind)
  | buffers (call : Batch (Element k) Buffer)
  | slices (call : Batch (Element k) Slice) (dependencies : List Event)
  | groups (call : Grouped (Element k) Slice) (dependencies : List Event)

namespace Request

abbrev Result : Request k → Type
  | buffers _ => Unit
  | slices _ _ => Event
  | groups _ _ => Event

def routine : Request k → Routine
  | buffers call => call.routine
  | slices call _ => call.routine
  | groups call _ => call.routine

def check : Request k → Except Fault Unit
  | buffers call => call.check
  | slices call _ => checkBatchSize call.size
  | groups call _ => call.check

def dispatch (registry : Registry (Backend ω)) (queue : Queue) (layout : Layout) :
    (r : Request k) → Action ω r.Result
  | buffers call => callOnBuffers registry k queue layout call
  | slices call dependencies => callOnSlices registry k queue layout call dependencies
  | groups call dependencies => callOnGroups registry k queue layout call dependencies

def handle (backend : Backend ω) (queue : Queue) (layout : Layout) :
    (r : Request k) → Action ω r.Result
  | buffers call => backend.onBuffers k queue layout call
  | slices call dependencies => backend.onSlices k queue layout call dependencies
  | groups call dependencies => backend.onGroups k queue layout call dependencies

theorem dispatch_eq_forward (registry : Registry (Backend ω)) (queue : Queue) (layout : Layout)
    (r : Request k) :
    r.dispatch registry queue layout =
      forward registry queue r.routine r.check fun backend => r.handle backend queue layout := by
  cases r with
  | buffers call => cases call <;> rfl
  | slices call dependencies => cases call <;> rfl
  | groups call dependencies => cases call <;> rfl

end Request

/-! ## Accepted requests -/

/-- The operand of an argument that has one. -/
def Argument.operand? {α β : Type} : Argument α β → Option β
  | .operand data => some data
  | .integer _ | .scalar _ => none

def Batch.operands {α β : Type} (call : Batch α β) : List β :=
  call.arguments.filterMap Argument.operand?

/-- The last operand is the one that is written, and no other has its storage. -/
def Batch.Separate {α : Type} (call : Batch α Buffer) : Prop :=
  ∀ output ∈ call.operands.getLast?, ∀ input ∈ call.operands.dropLast,
    input.storage ≠ output.storage

structure Grouped.Covered {α β : Type} (call : Grouped α β) : Prop where
  nonneg : ∀ size ∈ call.sizes, 0 ≤ size
  total : call.sizes.sum ≤ maxInt64
  entries : ∀ list ∈ call.operands, (list.2.length : Int) = call.sizes.sum

/-- What the front-end asks of a request. -/
def Request.Valid : Request k → Prop
  | buffers call => 0 ≤ call.size ∧ call.Separate
  | slices call _ => 0 ≤ call.size
  | groups call _ => call.Covered

theorem checkBatchSize_eq_ok_iff {size : Int} : checkBatchSize size = .ok () ↔ 0 ≤ size := by
  unfold checkBatchSize
  split
  · rename_i hneg
    simp only [reduceCtorEq, false_iff]
    omega
  · rename_i hneg
    simp only [true_iff]
    omega

theorem checkAliasing_eq_ok_iff {σ : Type} [DecidableEq σ] {output : String × σ}
    {inputs : List (String × σ)} :
    checkAliasing output inputs = .ok () ↔ ∀ input ∈ inputs, input.2 ≠ output.2 := by
  unfold checkAliasing
  cases hfound : inputs.find? fun input => input.2 = output.2 with
  | none =>
    simp only [true_iff]
    intro input hinput heq
    have hno := List.find?_eq_none.mp hfound input hinput
    simp [heq] at hno
  | some input =>
    simp only [reduceCtorEq, false_iff]
    intro hseparate
    have heq : input.2 = output.2 := by simpa using List.find?_some hfound
    exact hseparate input (List.mem_of_find?_eq_some hfound) heq

theorem checkBuffers_eq_ok_iff {batchSize : Int} {output : String × Storage}
    {inputs : List (String × Storage)} :
    checkBuffers batchSize output inputs = .ok () ↔
      0 ≤ batchSize ∧ ∀ input ∈ inputs, input.2 ≠ output.2 := by
  rw [← checkBatchSize_eq_ok_iff, ← checkAliasing_eq_ok_iff, checkBuffers]
  cases checkBatchSize batchSize with
  | error fault => simp
  | ok u => simp

theorem addGroups_eq_ok_iff {index n : Nat} {total : Int} {sizes : List Int}
    (hrange : total ≤ maxInt64) :
    addGroups index total sizes = .ok n ↔
      (∀ size ∈ sizes, 0 ≤ size) ∧ total + sizes.sum ≤ maxInt64 ∧
        (total + sizes.sum).toNat = n := by
  induction sizes generalizing index total with
  | nil => simp [addGroups, hrange]
  | cons size rest ih =>
    simp only [addGroups, List.sum_cons, List.forall_mem_cons]
    split
    · rename_i hneg
      simp only [reduceCtorEq, false_iff]
      rintro ⟨⟨hsize, -⟩, -⟩
      omega
    · rename_i hsize
      split
      · rename_i hnext
        rw [ih hnext, show total + (size + rest.sum) = total + size + rest.sum by omega]
        constructor
        · rintro ⟨hrest, hsum⟩
          exact ⟨⟨by omega, hrest⟩, hsum⟩
        · rintro ⟨⟨-, hrest⟩, hsum⟩
          exact ⟨hrest, hsum⟩
      · rename_i hover
        simp only [reduceCtorEq, false_iff]
        rintro ⟨⟨-, hrest⟩, hsum, -⟩
        -- A partial sum is no more than the whole sum, as none of the other sizes is negative.
        have := List.sum_nonneg hrest
        omega

theorem Batch.separate_iff {α : Type} {call : Batch α Buffer} {inputs : List Buffer}
    {output : Buffer} (h : call.operands = inputs ++ [output]) :
    call.Separate ↔ ∀ input ∈ inputs, input.storage ≠ output.storage := by
  simp [Separate, h]

/-- A check for aliases misses no operand if its inputs and its output are all operands of the
call. -/
theorem Batch.checkBuffers_eq_ok_iff {α : Type} (call : Batch α Buffer)
    {output : String × Storage} {inputs : List (String × Storage)}
    (h : call.operands.map Buffer.storage = inputs.map Prod.snd ++ [output.2]) :
    checkBuffers call.size output inputs = .ok () ↔ 0 ≤ call.size ∧ call.Separate := by
  obtain ⟨read, rest, hoperands, hread, hrest⟩ := List.map_eq_append_iff.mp h
  obtain ⟨written, rfl, hwritten⟩ := List.map_eq_singleton_iff.mp hrest
  have hinputs : (∀ input ∈ inputs, input.2 ≠ output.2) ↔
      ∀ storage ∈ inputs.map Prod.snd, storage ≠ output.2 := by
    rw [List.forall_mem_map]
  rw [Blas.checkBuffers_eq_ok_iff, separate_iff hoperands, hinputs, ← hread, hwritten,
    List.forall_mem_map]

theorem Batch.check_eq_ok_iff {α : Type} {call : Batch α Buffer} :
    call.check = .ok () ↔ 0 ≤ call.size ∧ call.Separate := by
  cases call with
  | copy c => exact checkBuffers_eq_ok_iff (.copy c) rfl
  | axpy c => exact checkBuffers_eq_ok_iff (.axpy c) rfl
  | gemv c => exact checkBuffers_eq_ok_iff (.gemv c) rfl
  | dgmm c => exact checkBuffers_eq_ok_iff (.dgmm c) rfl
  | gemm c => exact checkBuffers_eq_ok_iff (.gemm c) rfl
  | trsm c => exact checkBuffers_eq_ok_iff (.trsm c) rfl
  | syrk c => exact checkBuffers_eq_ok_iff (.syrk c) rfl
  | omatcopy c => exact checkBuffers_eq_ok_iff (.omatcopy c) rfl
  | imatcopy c =>
    have hoperands : operands (.imatcopy c : Batch α Buffer) = [] ++ [c.ab] := rfl
    rw [check, checkBatchSize_eq_ok_iff, size, separate_iff hoperands]
    exact (and_iff_left (List.forall_mem_nil _)).symm
  | omatadd c => exact checkBuffers_eq_ok_iff (.omatadd c) rfl

theorem Grouped.check_eq_ok_iff {α β : Type} {call : Grouped α β} :
    call.check = .ok () ↔ call.Covered := by
  have hzero : (0 : Int) ≤ maxInt64 := by decide
  have htotal : ∀ n, groupTotal call.sizes = .ok n ↔ _ := fun n => addGroups_eq_ok_iff hzero
  unfold check checkGroups
  cases hgroups : groupTotal call.sizes with
  | error fault =>
    simp only [reduceCtorEq, false_iff]
    rintro ⟨hnonneg, hsum, -⟩
    have hok := (htotal call.sizes.sum.toNat).mpr ⟨hnonneg, by omega, by rw [Int.zero_add]⟩
    rw [hgroups] at hok
    cases hok
  | ok n =>
    obtain ⟨hnonneg, hsum, hn⟩ := (htotal n).mp hgroups
    have hpositive := List.sum_nonneg hnonneg
    simp only [checkEntryCounts_eq_ok_iff]
    constructor
    · intro hcounts
      refine ⟨hnonneg, by omega, fun list hlist => ?_⟩
      have := hcounts list hlist
      omega
    · intro hcovered list hlist
      have := hcovered.entries list hlist
      omega

namespace Request

theorem check_eq_ok_iff {r : Request k} : r.check = .ok () ↔ r.Valid := by
  cases r with
  | buffers call => exact Batch.check_eq_ok_iff
  | slices call dependencies => exact checkBatchSize_eq_ok_iff
  | groups call dependencies => exact Grouped.check_eq_ok_iff

end Request

/-! ## Faults of requests -/

def Fault.Invalid (fault : Fault) : Prop :=
  ∀ routine, ∃ message, fault.toError routine = .invalidArgument "blas" routine message

theorem invalid_of_checkBatchSize {size : Int} {fault : Fault}
    (h : checkBatchSize size = .error fault) : fault.Invalid := by
  unfold checkBatchSize at h
  split at h
  · cases h
    exact fun routine => ⟨_, rfl⟩
  · cases h

theorem invalid_of_addGroups {index : Nat} {total : Int} {sizes : List Int} {fault : Fault}
    (h : addGroups index total sizes = .error fault) : fault.Invalid := by
  induction sizes generalizing index total with
  | nil => cases h
  | cons size rest ih =>
    unfold addGroups at h
    split at h
    · cases h
      exact fun routine => ⟨_, rfl⟩
    · split at h
      · exact ih h
      · cases h
        exact fun routine => ⟨_, rfl⟩

theorem invalid_of_checkEntryCounts {β : Type} {total : Nat} {operands : List (String × List β)}
    {fault : Fault} (h : checkEntryCounts total operands = .error fault) : fault.Invalid := by
  induction operands with
  | nil => cases h
  | cons operand rest ih =>
    unfold checkEntryCounts checkEntryCount at h
    split at h
    · rename_i hcount
      split at hcount
      · cases hcount
      · cases hcount
        cases h
        exact fun routine => ⟨_, rfl⟩
    · exact ih h

theorem invalid_of_checkAliasing {output : String × Storage} {inputs : List (String × Storage)}
    {fault : Fault} (h : checkAliasing output inputs = .error fault) : fault.Invalid := by
  unfold checkAliasing at h
  split at h
  · cases h
    exact fun routine => ⟨_, rfl⟩
  · cases h

theorem invalid_of_checkBuffers {batchSize : Int} {output : String × Storage}
    {inputs : List (String × Storage)} {fault : Fault}
    (h : checkBuffers batchSize output inputs = .error fault) : fault.Invalid := by
  unfold checkBuffers at h
  split at h
  · rename_i found hsize
    cases h
    exact invalid_of_checkBatchSize hsize
  · exact invalid_of_checkAliasing h

theorem invalid_of_checkGroups {β : Type} {sizes : List Int} {operands : List (String × List β)}
    {fault : Fault} (h : checkGroups sizes operands = .error fault) : fault.Invalid := by
  unfold checkGroups at h
  split at h
  · rename_i found htotal
    cases h
    exact invalid_of_addGroups htotal
  · exact invalid_of_checkEntryCounts h

/-- Whatever the front-end finds wrong with a request, it reports as an invalid argument. -/
theorem Request.invalid_of_check {r : Request k} {fault : Fault} (h : r.check = .error fault) :
    fault.Invalid := by
  cases r with
  | buffers call =>
    cases call with
    | imatcopy c => exact invalid_of_checkBatchSize h
    | _ => exact invalid_of_checkBuffers h
  | slices call dependencies => exact invalid_of_checkBatchSize h
  | groups call dependencies => exact invalid_of_checkGroups h

/-! ## What the front-end does -/

namespace Request

variable (registry : Registry (Backend ω)) (queue : Queue) (layout : Layout) (r : Request k)

theorem dispatch_of_fault {fault : Fault} (h : r.check = .error fault) (w : ω) :
    r.dispatch registry queue layout w = (.error (fault.toError r.routine.name), w) := by
  rw [dispatch_eq_forward, h]
  rfl

theorem dispatch_of_unserved {e : Error} (hvalid : r.Valid)
    (h : registry.backendFor queue.device = .error e) (w : ω) :
    r.dispatch registry queue layout w = (.error e, w) := by
  rw [dispatch_eq_forward, check_eq_ok_iff.mpr hvalid]
  simp only [forward, h]
  rfl

theorem dispatch_of_served {b : Backend ω} (hvalid : r.Valid)
    (h : registry.backendFor queue.device = .ok b) (w : ω) :
    r.dispatch registry queue layout w = r.handle b queue layout w := by
  rw [dispatch_eq_forward, check_eq_ok_iff.mpr hvalid]
  simp only [forward, h]

end Request

/-! ## What backends are asked -/

structure Arrival (ω : Type) where
  backend : Backend ω
  kind : ElementKind
  queue : Queue
  layout : Layout
  request : Request kind

structure Logged (ω : Type) where
  world : ω
  arrivals : List (Arrival ω)

/-- The backend, entering the requests that arrive. -/
def Backend.logged (b : Backend ω) : Backend (Logged ω) where
  name := b.name
  supports := b.supports
  routines kind := .ofCalls
    (fun queue layout call w =>
      let (answer, world) := b.onBuffers kind queue layout call w.world
      (answer, ⟨world, ⟨b, kind, queue, layout, .buffers call⟩ :: w.arrivals⟩))
    (fun queue layout call dependencies w =>
      let (answer, world) := b.onSlices kind queue layout call dependencies w.world
      (answer, ⟨world, ⟨b, kind, queue, layout, .slices call dependencies⟩ :: w.arrivals⟩))
    (fun queue layout call dependencies w =>
      let (answer, world) := b.onGroups kind queue layout call dependencies w.world
      (answer, ⟨world, ⟨b, kind, queue, layout, .groups call dependencies⟩ :: w.arrivals⟩))

theorem backendFor_logged (registry : Registry (Backend ω)) (device : Device) :
    (registry.map Backend.logged).backendFor device =
      (registry.backendFor device).map Backend.logged := by
  have hname : ∀ b : Backend ω, Served.name b.logged = Served.name b := fun _ => rfl
  exact Registry.backendFor_map hname (fun _ _ => rfl) registry device

namespace Request

variable (registry : Registry (Backend ω)) (queue : Queue) (layout : Layout) (r : Request k)

def arrivals : List (Arrival ω) :=
  match r.check, registry.backendFor queue.device with
  | .ok (), .ok b => [⟨b, k, queue, layout, r⟩]
  | _, _ => []

theorem handle_logged (b : Backend ω) (w : Logged ω) :
    r.handle b.logged queue layout w =
      ((r.handle b queue layout w.world).1,
        ⟨(r.handle b queue layout w.world).2, ⟨b, k, queue, layout, r⟩ :: w.arrivals⟩) := by
  cases r with
  | buffers call => cases call <;> rfl
  | slices call dependencies => cases call <;> rfl
  | groups call dependencies => cases call <;> rfl

theorem dispatch_logged (w : Logged ω) :
    r.dispatch (registry.map Backend.logged) queue layout w =
      ((r.dispatch registry queue layout w.world).1,
        ⟨(r.dispatch registry queue layout w.world).2,
          r.arrivals registry queue layout ++ w.arrivals⟩) := by
  have hmapped := backendFor_logged registry queue.device
  unfold arrivals
  cases hcheck : r.check with
  | error fault =>
    rw [dispatch_of_fault _ _ _ _ hcheck, dispatch_of_fault _ _ _ _ hcheck]
    rfl
  | ok u =>
    have hvalid := check_eq_ok_iff.mp hcheck
    cases hserved : registry.backendFor queue.device with
    | error e =>
      rw [hserved] at hmapped
      rw [dispatch_of_unserved _ _ _ _ hvalid hmapped, dispatch_of_unserved _ _ _ _ hvalid hserved]
      rfl
    | ok b =>
      rw [hserved] at hmapped
      rw [dispatch_of_served _ _ _ _ hvalid hmapped, dispatch_of_served _ _ _ _ hvalid hserved,
        handle_logged]
      rfl

theorem arrivals_of_served {b : Backend ω} (hvalid : r.Valid)
    (h : registry.backendFor queue.device = .ok b) :
    r.arrivals registry queue layout = [⟨b, k, queue, layout, r⟩] := by
  rw [arrivals, check_eq_ok_iff.mpr hvalid, h]

theorem arrivals_ne_nil_iff :
    r.arrivals registry queue layout ≠ [] ↔
      r.Valid ∧ ∃ b, registry.backendFor queue.device = .ok b := by
  constructor
  · intro harrived
    unfold arrivals at harrived
    split at harrived
    · rename_i b hcheck hserved
      exact ⟨check_eq_ok_iff.mp hcheck, b, hserved⟩
    · exact absurd rfl harrived
  · rintro ⟨hvalid, b, hserved⟩
    rw [r.arrivals_of_served registry queue layout hvalid hserved]
    exact List.cons_ne_nil _ _

end Request

/-- A request reaches a backend if and only if it is valid and one can be selected for the device of
the queue. Then it arrives once, at that backend and as it was made, and the caller gets what the
backend answers. A request that is not valid is an invalid argument whatever backends there are, and
refusals leave the state as it was. Logs change none of the answers. -/
theorem forwarded_or_refused (registry : Registry (Backend ω)) (queue : Queue) (layout : Layout)
    (r : Request k) (w : ω) :
    let run := r.dispatch registry queue layout w
    let logged := r.dispatch (registry.map Backend.logged) queue layout ⟨w, []⟩
    (logged.1 = run.1 ∧ logged.2.world = run.2) ∧
      (logged.2.arrivals ≠ [] ↔
        r.Valid ∧ ∃ b selection, registry.select queue.device = .ok (b, selection)) ∧
      (∀ b selection, r.Valid → registry.select queue.device = .ok (b, selection) →
        logged.2.arrivals = [⟨b, k, queue, layout, r⟩] ∧ run = r.handle b queue layout w) ∧
      (¬ r.Valid →
        ∃ message, run = (.error (.invalidArgument "blas" r.routine.name message), w)) ∧
      ∀ e, r.Valid → registry.select queue.device = .error e → run = (.error e, w) := by
  intro run logged
  have hlogged : logged = (run.1, ⟨run.2, r.arrivals registry queue layout ++ []⟩) :=
    r.dispatch_logged registry queue layout ⟨w, []⟩
  rw [List.append_nil] at hlogged
  rw [hlogged]
  refine ⟨⟨rfl, rfl⟩, ?_, ?_, ?_, ?_⟩
  · simp only [← Registry.backendFor_eq_ok_iff]
    exact r.arrivals_ne_nil_iff registry queue layout
  · intro b selection hvalid hselect
    have hserved := Registry.backendFor_eq_ok_iff.mpr ⟨selection, hselect⟩
    exact ⟨r.arrivals_of_served registry queue layout hvalid hserved,
      r.dispatch_of_served registry queue layout hvalid hserved w⟩
  · intro hinvalid
    cases hcheck : r.check with
    | ok u => exact absurd (Request.check_eq_ok_iff.mp hcheck) hinvalid
    | error fault =>
      obtain ⟨message, hmessage⟩ := Request.invalid_of_check hcheck r.routine.name
      have hrun : run = _ := r.dispatch_of_fault registry queue layout hcheck w
      exact ⟨message, by rw [hrun, hmessage]⟩
  · intro e hvalid hselect
    have hunserved := Registry.backendFor_eq_error_iff.mpr hselect
    exact r.dispatch_of_unserved registry queue layout hvalid hunserved w

end Offload.Blas
