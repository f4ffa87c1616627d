import Offload.Config
import Offload.Toml.Document

/-!
# Configuration files

A configuration file is a TOML document with the keys `device`, `strict`, `blas` and `dft`, the last
two of which are sections. Keys that are missing keep their defaults and unknown keys are passed
over. A section may also be an array of its settings in order.
-/

set_option autoImplicit false

namespace Offload.Config.File

open Offload.Toml (Value)

inductive Fault
  /-- It is not well formed, or a key has a value of the wrong type. -/
  | malformed
  | device (cause : Error)
deriving DecidableEq, Repr

def backendName : Value → Except Fault (Option String)
  | .string s => .ok (some s)
  | _ => .error .malformed

def flag : Value → Except Fault Bool
  | .boolean b => .ok b
  | _ => .error .malformed

def device : Value → Except Fault Device.Spec
  | .string s =>
    match Device.Spec.parse s with
    | .ok spec => .ok spec
    | .error cause => .error (.device cause)
  | _ => .error .malformed

def preferenceEntries (p : Preference) : List (String × Value) → Except Fault Preference
  | [] => .ok p
  | (key, v) :: rest =>
    if key = "backend" then
      match backendName v with
      | .ok backend => preferenceEntries { p with backend } rest
      | .error fault => .error fault
    else if key = "enabled" then
      match flag v with
      | .ok enabled => preferenceEntries { p with enabled } rest
      | .error fault => .error fault
    else preferenceEntries p rest

/-- A section: a table, an array of the settings in order, or a date, which holds none of them. -/
def preference : Value → Except Fault Preference
  | .table entries => preferenceEntries {} entries
  | .array [] => .ok {}
  | .array [name] => (backendName name).map fun backend => { backend }
  | .array (name :: on :: _) =>
    match backendName name with
    | .error fault => .error fault
    | .ok backend => (flag on).map fun enabled => { backend, enabled }
  | .datetime _ => .ok {}
  | _ => .error .malformed

/-- The settings of a document, entry by entry. The first entry that does not fit decides the
fault. -/
def entries (c : Config) : List (String × Value) → Except Fault Config
  | [] => .ok c
  | (key, v) :: rest =>
    if key = "device" then
      match device v with
      | .ok device => entries { c with device } rest
      | .error fault => .error fault
    else if key = "strict" then
      match flag v with
      | .ok strict => entries { c with strict } rest
      | .error fault => .error fault
    else if key = "blas" then
      match preference v with
      | .ok blas => entries { c with blas } rest
      | .error fault => .error fault
    else if key = "dft" then
      match preference v with
      | .ok dft => entries { c with dft } rest
      | .error fault => .error fault
    else entries c rest

def parse (text : String) : Except Fault Config :=
  match Toml.parse text with
  | none => .error .malformed
  | some table => entries {} table

/-- The reason that is given for a fault. The place in the document is left out. -/
def Fault.reason : Fault → String
  | malformed => "malformed document"
  | device cause => cause.message

/-- The configuration that a document writes down, or the reason why it is none. -/
def decode (text : String) : Except String Config := (parse text).mapError Fault.reason

end Offload.Config.File
