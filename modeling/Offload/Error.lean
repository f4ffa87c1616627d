/-!
# Errors of the dispatch layer

One type for everything that a front-end, a registry, a configuration or a backend can report, with
the wording of each in `Error.message`.
-/

set_option autoImplicit false

namespace Offload

inductive Error
  /-- An argument of `function` is out of its range or does not fit the others. -/
  | invalidArgument (domain function message : String)
  /-- The request is a known one that nothing here carries out. -/
  | unimplemented (domain function detail : String)
  | backendUnavailable (domain device : String)
  | overflow (function argument : String) (value : Int)
  | backend (library routine : String) (status : Int) (message : String)
  | config (text : String)
deriving DecidableEq, Repr

namespace Error

def message : Error → String
  | invalidArgument domain function message =>
    s!"invalid argument to {domain}::{function}: {message}"
  | unimplemented domain function detail => s!"{domain}::{function} is not implemented {detail}"
  | backendUnavailable domain device => s!"no {domain} backend available for device {device}"
  | overflow function argument value =>
    s!"{function}: argument `{argument}` = {value} overflows the backend integer type"
  | backend library routine status message =>
    s!"{library} call {routine} failed with status {status} ({message})"
  | config text => s!"configuration error: {text}"

def isInvalidArgument : Error → Bool
  | invalidArgument .. => true
  | _ => false

def isUnimplemented : Error → Bool
  | unimplemented .. => true
  | _ => false

def isBackendUnavailable : Error → Bool
  | backendUnavailable .. => true
  | _ => false

end Error

end Offload
