import Offload.Device
import Offload.Error
import Offload.Text.Lowercase

/-!
# Selection of a backend

Out of the backends of a domain, in order of precedence, `Selection.choose` picks the one that serves
a device: the requested one if it can, otherwise the first that can. A strict request admits no
substitute.
-/

set_option autoImplicit false

namespace Offload

structure Candidate where
  name : String
  supportsDevice : Bool
deriving DecidableEq, Repr

structure Selection where
  domain : String
  device : String
  /-- The backend that the configuration names, if any. -/
  requested : Option String
  /-- The backends that support the device, in order of precedence. -/
  detected : List String
  selected : String
  rationale : String
deriving DecidableEq, Repr

namespace Selection

def summary (s : Selection) : String :=
  let requested := s.requested.getD "auto"
  let detected := String.intercalate "," s.detected
  s!"domain={s.domain} device={s.device} requested={requested} detected=[{detected}] " ++
    s!"selected={s.selected}"

def capable (candidates : List Candidate) : List String :=
  (candidates.filter (·.supportsDevice)).map (·.name)

/-- The name chosen out of the capable ones, if any, and why; an error when a strict request finds
no backend of its name. -/
def pick (domain : String) (device : Device) (requested : Option String) (strict : Bool)
    (detected : List String) : Except Error (Option String × String) :=
  match requested with
  | none => .ok (detected.head?, "first registered backend supporting the device")
  | some name =>
    match detected.find? fun d => Text.equalsIgnoringAsciiCase d name with
    | some found => .ok (some found, s!"{found} requested and supports {device.text}")
    | none =>
      if strict then
        let names := String.intercalate ", " detected
        .error (.config (s!"requested {domain} backend '{name}' cannot serve device {device.text}; " ++
          s!"capable backends: [{names}]"))
      else
        .ok (detected.head?, s!"{name} requested but cannot serve {device.text}; falling back")

def choose (domain : String) (device : Device) (requested : Option String) (strict : Bool)
    (candidates : List Candidate) : Except Error Selection :=
  let detected := capable candidates
  match pick domain device requested strict detected with
  | .error e => .error e
  | .ok (none, _) => .error (.backendUnavailable domain device.text)
  | .ok (some selected, rationale) =>
    .ok ⟨domain, device.text, requested, detected, selected, rationale⟩

end Selection

end Offload
