import Offload.Config
import Offload.Selection

/-!
# Registries of backends

A registry holds the backends of one domain in order of precedence: the one registered last comes
first. Names are unique, since registering a name again replaces its backend. `names_register` and
`names_unregister` say how the names change, `get?_register_self` and `get?_register_of_ne` what is
found under a name.
-/

set_option autoImplicit false

namespace Offload

class Served (β : Type) where
  name : β → String
  supports : β → Device → Bool

/-- The backends of one domain, highest precedence first. -/
structure Registry (β : Type) where
  domain : String
  backends : List β
  preference : Preference
  strict : Bool

namespace Registry

variable {β : Type}

def empty (domain : String) : Registry β := ⟨domain, [], {}, false⟩

/-- Takes over the domain's section of a configuration. Domains without a section of their own have
the default one. -/
def configure (r : Registry β) (c : Config) : Registry β :=
  { r with
    preference := if r.domain = "blas" then c.blas else if r.domain = "dft" then c.dft else {}
    strict := c.strict }

variable [Served β]

def names (r : Registry β) : List String := r.backends.map Served.name

/-- Registers a backend in front of all others, replacing one of the same name. -/
def register (r : Registry β) (b : β) : Registry β :=
  { r with backends := b :: r.backends.filter fun other => Served.name other != Served.name b }

def unregister (r : Registry β) (name : String) : Registry β :=
  { r with backends := r.backends.filter fun b => Served.name b != name }

/-- A backend of the name is registered. -/
def lists (r : Registry β) (name : String) : Bool := r.names.contains name

def get? (r : Registry β) (name : String) : Option β :=
  r.backends.find? fun b => Served.name b == name

def candidates (r : Registry β) (device : Device) : List Candidate :=
  r.backends.map fun b => ⟨Served.name b, Served.supports b device⟩

def select (r : Registry β) (device : Device) : Except Error (β × Selection) :=
  if !r.preference.enabled then .error (.config s!"{r.domain} dispatch is disabled")
  else
    match Selection.choose r.domain device r.preference.backend r.strict (r.candidates device) with
    | .error e => .error e
    | .ok selection =>
      match r.get? selection.selected with
      | some b => .ok (b, selection)
      | none => .error (.backendUnavailable r.domain device.text)

def backendFor (r : Registry β) (device : Device) : Except Error β :=
  (r.select device).map Prod.fst

theorem names_configure (r : Registry β) (c : Config) :
    (r.configure c).names = r.names := rfl

theorem get?_configure (r : Registry β) (c : Config) (name : String) :
    (r.configure c).get? name = r.get? name := rfl

@[simp]
theorem get?_empty (domain name : String) : (empty domain : Registry β).get? name = none := rfl

theorem names_unregister (r : Registry β) (name : String) :
    (r.unregister name).names = r.names.filter (· != name) := by
  simp only [names, unregister, List.filter_map]
  rfl

theorem names_register (r : Registry β) (b : β) :
    (r.register b).names = Served.name b :: r.names.filter (· != Served.name b) := by
  simp only [names, register, List.map_cons, List.filter_map]
  rfl

theorem lists_iff (r : Registry β) (name : String) : r.lists name = true ↔ name ∈ r.names := by
  simp only [lists, List.contains_iff_mem]

theorem get?_register_self (r : Registry β) (b : β) :
    (r.register b).get? (Served.name b) = some b := by
  simp [get?, register]

theorem get?_unregister_self (r : Registry β) (name : String) :
    (r.unregister name).get? name = none := by
  simp [get?, unregister]

theorem get?_unregister_of_ne (r : Registry β) {name other : String} (h : other ≠ name) :
    (r.unregister name).get? other = r.get? other := by
  simp only [get?, unregister, List.find?_filter]
  congr 1
  funext b
  by_cases hb : Served.name b = other <;> simp [hb, h]

theorem get?_register_of_ne (r : Registry β) {b : β} {name : String} (h : name ≠ Served.name b) :
    (r.register b).get? name = r.get? name := by
  have := get?_unregister_of_ne r h
  simp only [get?, unregister, register] at *
  rw [List.find?_cons_of_neg (by simpa using fun e => h e.symm), this]

end Registry

end Offload
