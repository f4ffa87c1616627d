import Offload.Device
import Offload.Error
import Offload.Text.Blank
import Offload.Text.Lowercase

/-!
# Device specifications

A specification is what a user writes to ask for a device: `auto`, `host`, or a vendor with an
optional index. `Spec.parse` reads one whatever its case and the blanks around it, `Spec.text` writes
the canonical form, and `Spec.resolve` picks the device out of those present.
-/

set_option autoImplicit false

namespace Offload.Device

inductive Spec
  /-- The first device that is not the host, otherwise the host. -/
  | auto
  | host
  | gpu (vendor : Vendor) (index : UInt64)
deriving DecidableEq, Repr

namespace Spec

inductive IndexFault
  | empty
  | invalidDigit
  | tooLarge
deriving DecidableEq, Repr

def IndexFault.text : IndexFault → String
  | empty => "cannot parse integer from empty string"
  | invalidDigit => "invalid digit found in string"
  | tooLarge => "number too large to fit in target type"

inductive Fault
  | index (cause : IndexFault)
  | unknown
deriving DecidableEq, Repr

def Fault.text (s : String) : Fault → String
  | index cause => s!"invalid device index in '{s}': {cause.text}"
  | unknown => s!"unknown device spec: '{s}'"

/-- The value of the digits read so far, `n`, followed by those still to come. An overflow is noticed
at the digit that causes it, so the first of an overflow and a character that is no digit decides
the fault. -/
def readDigits : Nat → List Char → Except IndexFault Nat
  | n, [] => .ok n
  | n, c :: rest =>
    if c.isDigit then
      let m := n * 10 + (c.toNat - '0'.toNat)
      if m < UInt64.size then readDigits m rest else .error .tooLarge
    else .error .invalidDigit

def readIndex : List Char → Except IndexFault UInt64
  | [] => .error .empty
  | ['+'] => .error .invalidDigit
  | '+' :: rest => (readDigits 0 rest).map UInt64.ofNat
  | cs => (readDigits 0 cs).map UInt64.ofNat

def vendorOfAlias (cs : List Char) : Option Vendor :=
  if cs ∈ ["amd".toList, "rocm".toList, "hip".toList] then some .amd
  else if cs ∈ ["nvidia".toList, "cuda".toList] then some .nvidia
  else if cs ∈ ["intel".toList, "level-zero".toList, "l0".toList] then some .intel
  else none

def ofWord (cs : List Char) : Option Spec :=
  if cs = "auto".toList then some .auto
  else if cs ∈ ["host".toList, "cpu".toList] then some .host
  else (vendorOfAlias cs).map (.gpu · 0)

/-- The text before the first colon and, if there is one, the text after it. -/
def splitColon (cs : List Char) : List Char × Option (List Char) :=
  (cs.takeWhile (· != ':'), match cs.dropWhile (· != ':') with
    | _ :: rest => some rest
    | [] => none)

/-- Reads a specification in its plain form: lowercase, without blanks around it. The index is read
before the vendor is looked at. -/
def readPlain (cs : List Char) : Except Fault Spec :=
  match splitColon cs with
  | (word, none) =>
    match ofWord word with
    | some spec => .ok spec
    | none => .error .unknown
  | (word, some rest) =>
    match readIndex rest with
    | .error cause => .error (.index cause)
    | .ok index =>
      match vendorOfAlias word with
      | some vendor => .ok (.gpu vendor index)
      | none => .error .unknown

def read (cs : List Char) : Except Fault Spec := readPlain (Text.lower (Text.trim cs))

/-- Reads a specification; a fault quotes the text as it was given. -/
def parse (s : String) : Except Error Spec :=
  match read s.toList with
  | .ok spec => .ok spec
  | .error fault => .error (.config (fault.text s))

def text : Spec → String
  | auto => "auto"
  | host => "host"
  | gpu vendor index => s!"{vendor.name}:{index}"

/-- Picks a device out of those present. A vendor and index that are not present are an error rather
than a silent fallback. -/
def resolve (spec : Spec) (available : List Device) : Except Error Device :=
  match spec with
  | auto => .ok ((available.find? fun d => !d.isHost).getD Device.host)
  | host => .ok Device.host
  | gpu vendor index =>
    match available.find? fun d => d.vendor == vendor && d.index == index with
    | some device => .ok device
    | none =>
      .error (.config s!"device {spec.text} not found among {available.length} devices")

end Spec

end Offload.Device
