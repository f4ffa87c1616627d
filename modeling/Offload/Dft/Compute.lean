import Offload.Dft.Descriptor
import Offload.Dft.Extent

/-!
# Transforms on committed descriptors

A call reaches the plan of a descriptor only if the descriptor is committed, the call has the
placement and the storage of the settings, and all data is as long as the settings need. Calls on
buffers also ask that no two buffers share their storage, and wait for the result.
-/

set_option autoImplicit false

namespace Offload.Dft

open Number

inductive ComputeFault
  | aliasing (first second : String)
  | notCommitted
  | placement (expected found : Placement)
  | storage (expected found : Storage)
  | extent (cause : ExtentFault)
  | short (name : String) (length required : Nat)
deriving DecidableEq, Repr

namespace ComputeFault

def text : ComputeFault → String
  | aliasing first second => s!"buffers `{first}` and `{second}` alias"
  | notCommitted => "descriptor is not committed"
  | placement expected found =>
    let expected := expected.choice.name
    let found := found.choice.name
    s!"descriptor PLACEMENT is {expected} but a {found} call was made"
  | storage expected found =>
    let expected := expected.choice.name
    let found := found.choice.name
    s!"descriptor COMPLEX_STORAGE is {expected} but {found} data was passed"
  | extent cause => cause.text
  | short name length required =>
    s!"`{name}` holds {length} elements but the descriptor needs {required}"

def toError (direction : Direction) (fault : ComputeFault) : Error :=
  .invalidArgument "dft" direction.task fault.text

end ComputeFault

/-! ## The checks of a call -/

/-- The elements that data needs when it holds both domains. A real spectrum takes two numbers for
each of its elements. -/
def inPlaceNeed (domain : Domain) (forward backward : Nat) : Nat :=
  match domain with
  | .real => max forward (min (2 * backward) maxWord64)
  | .complex => max forward backward

def needs {β : Type} (domain : Domain) (direction : Direction) (forward backward : Nat) :
    Args β → List Nat
  | .inPlace _ => [inPlaceNeed domain forward backward]
  | .inPlaceSplit .. => [max forward backward, max forward backward]
  | .outOfPlace .. =>
    match direction with
    | .forward => [forward, backward]
    | .backward => [backward, forward]
  | .outOfPlaceSplit .. =>
    match direction with
    | .forward => [forward, forward, backward, backward]
    | .backward => [backward, backward, forward, forward]

def checkNeeds : List (String × Nat × Nat) → Except ComputeFault Unit
  | [] => .ok ()
  | (name, length, required) :: rest =>
    if length < required then .error (.short name length required) else checkNeeds rest

def checkExtents (s : Settings) (direction : Direction) (args : Args Samples) :
    Except ComputeFault Unit :=
  match s.extent .forward with
  | .error cause => .error (.extent cause)
  | .ok forward =>
    match s.extent .backward with
    | .error cause => .error (.extent cause)
    | .ok backward =>
      checkNeeds (args.names.zip ((args.toList.map Samples.length).zip
        (needs s.domain direction forward backward args)))

/-- Passes the commitment of a descriptor on if a call suits the descriptor. -/
def Descriptor.admit {π : Type} (d : Descriptor π) (direction : Direction) (args : Args Samples) :
    Except ComputeFault (Commitment π) :=
  match d.commitment with
  | none => .error .notCommitted
  | some c =>
    if args.placement ≠ d.settings.placement then
      .error (.placement d.settings.placement args.placement)
    else if args.storage ≠ d.settings.storage then
      .error (.storage d.settings.storage args.storage)
    else (checkExtents d.settings direction args).map fun () => c

variable {ω π : Type} [Plan ω π]

/-- Runs a transform on data that the caller manages; returns its event and the data afterwards. -/
def Descriptor.compute (d : Descriptor π) (direction : Direction) (args : Args Samples)
    (dependencies : List Event) (w : ω) : Except Error Event × Args Samples × ω :=
  match d.admit direction args with
  | .error fault => (.error (fault.toError direction), args, w)
  | .ok c => Plan.execute c.plan c.queue direction args dependencies w

/-! ## Calls on buffers -/

/-- The contents of all storages, by number. -/
structure Memory where
  cells : List Samples

namespace Memory

def get (mem : Memory) (storage : Nat) : Samples :=
  mem.cells.getD storage (.real .double #[])

def put (mem : Memory) (storage : Nat) (contents : Samples) : Memory :=
  ⟨mem.cells.set storage contents⟩

def putAll (mem : Memory) : List (Nat × Samples) → Memory
  | [] => mem
  | (storage, contents) :: rest => (mem.put storage contents).putAll rest

def alloc (mem : Memory) (contents : Samples) : Nat × Memory :=
  (mem.cells.length, ⟨mem.cells ++ [contents]⟩)

theorem get_put_self (mem : Memory) {storage : Nat} (contents : Samples)
    (h : storage < mem.cells.length) : (mem.put storage contents).get storage = contents := by
  simp [get, put, List.getD_eq_getElem?_getD, h]

theorem get_put_of_ne (mem : Memory) {storage other : Nat} (contents : Samples)
    (h : storage ≠ other) : (mem.put storage contents).get other = mem.get other := by
  simp [get, put, List.getD_eq_getElem?_getD, List.getElem?_set_ne h]

end Memory

/-- No two buffers of a call share their storage; the first two that do are named. -/
def checkDistinct : List (String × Nat) → Except ComputeFault Unit
  | [] => .ok ()
  | (name, storage) :: rest =>
    match rest.find? fun other => other.2 == storage with
    | some other => .error (.aliasing name other.1)
    | none => checkDistinct rest

theorem checkDistinct_eq_ok_iff {buffers : List (String × Nat)} :
    checkDistinct buffers = .ok () ↔ (buffers.map Prod.snd).Nodup := by
  induction buffers with
  | nil => simp [checkDistinct]
  | cons b rest ih =>
    obtain ⟨name, storage⟩ := b
    unfold checkDistinct
    simp only [List.map_cons, List.nodup_cons]
    cases h : rest.find? fun other => other.2 == storage with
    | some other =>
      have hs := List.find?_some h
      have hm := List.mem_of_find?_eq_some h
      simp only [beq_iff_eq] at hs
      simp only [reduceCtorEq, false_iff, not_and]
      intro hn
      exact absurd (hs ▸ List.mem_map_of_mem hm) hn
    | none =>
      simp only [ih, iff_and_self, List.mem_map, not_exists, not_and]
      intro _ other hm hs
      exact List.find?_eq_none.1 h other hm (by simp [hs])

/-- The memory after a call: the storages that the call writes hold what it left there. -/
def Memory.writeBack (mem : Memory) (buffers : Args Nat) (results : Args Samples) : Memory :=
  mem.putAll (buffers.outputs.zip results.outputs)

/-- Runs a transform on the contents of storages, as on data that the caller manages. -/
def Descriptor.computeIn (d : Descriptor π) (direction : Direction) (buffers : Args Nat)
    (dependencies : List Event) (mem : Memory) (w : ω) : Except Error Event × Memory × ω :=
  let (answer, results, w) := d.compute direction (buffers.map mem.get) dependencies w
  (answer, mem.writeBack buffers results, w)

/-- Runs a transform on buffers and waits for the result. -/
def Descriptor.computeBuffers (d : Descriptor π) (direction : Direction) (buffers : Args Nat)
    (mem : Memory) (w : ω) : Except Error Unit × Memory × ω :=
  match checkDistinct (buffers.names.zip buffers.toList) with
  | .error fault => (.error (fault.toError direction), mem, w)
  | .ok () =>
    match d.computeIn direction buffers [] mem w with
    | (.error e, mem, w) => (.error e, mem, w)
    | (.ok event, mem, w) => (event.outcome, mem, w)

end Offload.Dft
