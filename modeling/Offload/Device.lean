/-!
# Devices

A device is a piece of hardware that work can be queued on. Devices of one vendor are told apart by
their index.
-/

set_option autoImplicit false

namespace Offload

/-- Who made a device; the host counts as a vendor of its own. -/
inductive Vendor
  | host
  | amd
  | nvidia
  | intel
deriving DecidableEq, Repr

def Vendor.name : Vendor → String
  | host => "host"
  | amd => "amd"
  | nvidia => "nvidia"
  | intel => "intel"

structure Device where
  vendor : Vendor
  index : UInt64
  name : String
deriving DecidableEq, Repr

namespace Device

def host : Device := ⟨.host, 0, "host"⟩

def isHost (d : Device) : Bool := d.vendor == .host

def text (d : Device) : String :=
  if d.isHost then "host" else s!"{d.vendor.name}:{d.index}"

end Device

end Offload
