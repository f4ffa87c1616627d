import Offload.Config.File

/-!
# Loading a configuration

The configuration in force comes from three layers: the defaults, a file named by the environment,
and the environment itself. Each later layer overrides single settings of those before it. How a
text is decoded is up to a library, and so it is a parameter here; `File.decode` is the one in use.
-/

set_option autoImplicit false

namespace Offload

inductive Variable
  | configFile
  | device
  | blasBackend
  | dftBackend
  | strict
deriving DecidableEq, Repr

def Variable.name : Variable → String
  | configFile => "LINHAL_CONFIG"
  | device => "LINHAL_DEVICE"
  | blasBackend => "LINHAL_BLAS_BACKEND"
  | dftBackend => "LINHAL_DFT_BACKEND"
  | strict => "LINHAL_STRICT"

/-- The texts of the variables that are set. A value that is no text counts as not set. -/
abbrev Environment := Variable → Option String

def Environment.ofBytes (values : Variable → Option ByteArray) : Environment :=
  fun v => (values v).bind String.fromUTF8?

/-- The text of the file at a path, or the reason why it cannot be read. -/
abbrev Files := String → Except String String

/-- The configuration that a text writes down, or the reason why it is none. -/
abbrev Decoder := String → Except String Config

namespace Config

/-- The backend that a variable asks for: its trimmed lowercase text, or none if that is empty. -/
def backendOfText (s : String) : Option String :=
  let name := Text.trim s.toList
  if name = [] then none else some (String.ofList (Text.lower name))

/-- A truth value in one of its spellings, whatever its case and the blanks around it. -/
def parseFlag (s : String) : Except Error Bool :=
  let word := Text.lowered (Text.trimmed s)
  if word ∈ ["1", "true", "yes", "on"] then .ok true
  else if word ∈ ["0", "false", "no", "off", ""] then .ok false
  else
    let name := Variable.strict.name
    .error (.config s!"{name}: expected a boolean, got '{word}'")

def overrideDevice (env : Environment) (c : Config) : Except Error Config :=
  match env .device with
  | none => .ok c
  | some s => (Device.Spec.parse s).map fun device => { c with device }

def overrideBlas (env : Environment) (c : Config) : Except Error Config :=
  match env .blasBackend with
  | none => .ok c
  | some s => .ok { c with blas := { c.blas with backend := backendOfText s } }

def overrideDft (env : Environment) (c : Config) : Except Error Config :=
  match env .dftBackend with
  | none => .ok c
  | some s => .ok { c with dft := { c.dft with backend := backendOfText s } }

def overrideStrict (env : Environment) (c : Config) : Except Error Config :=
  match env .strict with
  | none => .ok c
  | some s => (parseFlag s).map fun strict => { c with strict }

def checked (c : Config) : Except Error Config := c.validate.map fun () => c

/-- Takes the steps one by one, up to the first that fails; returns how that went and the
configuration as the last successful step left it. -/
def takeSteps : List (Config → Except Error Config) → Config → Except Error Unit × Config
  | [], c => (.ok (), c)
  | step :: rest, c =>
    match step c with
    | .ok c => takeSteps rest c
    | .error e => (.error e, c)

def overrides (env : Environment) : List (Config → Except Error Config) :=
  [overrideDevice env, overrideBlas env, overrideDft env, overrideStrict env, checked]

def applyEnvironment (env : Environment) (c : Config) : Except Error Unit × Config :=
  takeSteps (overrides env) c

def underEnvironment (env : Environment) (c : Config) : Except Error Config :=
  match applyEnvironment env c with
  | (.ok (), c) => .ok c
  | (.error e, _) => .error e

def ofFile (decode : Decoder) (files : Files) (path : String) : Except Error Config :=
  match files path with
  | .error reason => .error (.config s!"reading {path}: {reason}")
  | .ok text =>
    match decode text with
    | .error reason => .error (.config s!"parsing {path}: {reason}")
    | .ok c => checked c

def ofEnvironment (env : Environment) : Except Error Config := underEnvironment env {}

/-- The configuration of the file that the environment names, or the defaults if it names none. -/
def base (decode : Decoder) (files : Files) (env : Environment) : Except Error Config :=
  match env .configFile with
  | none => .ok {}
  | some path => if path = "" then .ok {} else ofFile decode files path

def load (decode : Decoder) (files : Files) (env : Environment) : Except Error Config :=
  match base decode files env with
  | .error e => .error e
  | .ok c => underEnvironment env c

def loadOrDefault (decode : Decoder) (files : Files) (env : Environment) : Config :=
  match load decode files env with
  | .ok c => c
  | .error _ => {}

/-- The device of a queue that is made without a preference: the one the configuration in force asks
for, out of the host alone. -/
def defaultDevice (decode : Decoder) (files : Files) (env : Environment) :
    Except Error Device :=
  match load decode files env with
  | .error e => .error e
  | .ok c => c.device.resolve [Device.host]

end Config

end Offload
