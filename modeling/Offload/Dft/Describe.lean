import Offload.Dft.Descriptor
import Offload.Text.Quoted

/-!
# Descriptors as text

The text of a descriptor lists every setting under its name. Numbers are written in the fewest digits
that read back, and the name of the backend between quotes.
-/

set_option autoImplicit false

namespace Offload.Dft

def bracketed (items : List String) : String :=
  let inner := String.intercalate ", " items
  s!"[{inner}]"

def recordText (name : String) (fields : List (String × String)) : String :=
  let inner := String.intercalate ", " (fields.map fun (field, value) => s!"{field}: {value}")
  name ++ " \x7b " ++ inner ++ " \x7d"

def optionText : Option String → String
  | none => "None"
  | some s => s!"Some({s})"

def Choice.word : Choice → String
  | committed => "Committed"
  | uncommitted => "Uncommitted"
  | complexComplex => "ComplexComplex"
  | realReal => "RealReal"
  | inPlace => "Inplace"
  | notInPlace => "NotInplace"
  | ordered => "Ordered"
  | backwardScrambled => "BackwardScrambled"
  | allow => "Allow"
  | avoid => "Avoid"
  | cceFormat => "CceFormat"

def Precision.word : Precision → String
  | single => "Single"
  | double => "Double"

def Domain.word : Domain → String
  | real => "Real"
  | complex => "Complex"

def Settings.describe (s : Settings) : String :=
  let ints := fun ns : List Int => bracketed (ns.map toString)
  recordText "DescriptorValues"
    [("precision", s.precision.word), ("domain", s.domain.word), ("lengths", ints s.lengths),
      ("forward_scale", s.forwardScale.text), ("backward_scale", s.backwardScale.text),
      ("number_of_transforms", toString s.transforms),
      ("fwd_distance", toString s.forwardDistance), ("bwd_distance", toString s.backwardDistance),
      ("placement", s.placement.choice.word), ("complex_storage", s.storage.choice.word),
      ("real_storage", s.realStorage.word),
      ("conjugate_even_storage", s.conjugateEvenStorage.word),
      ("workspace", s.workspace.choice.word), ("ordering", s.ordering.word),
      ("transpose", toString s.transpose), ("packed_format", s.packedFormat.word),
      ("input_strides", optionText (s.explicitInputStrides.map ints)),
      ("output_strides", optionText (s.explicitOutputStrides.map ints))]

def Descriptor.describe {π : Type} (d : Descriptor π) : String :=
  recordText "Descriptor"
    [("values", d.settings.describe), ("backend", optionText (d.backend?.map Text.quoted))]

end Offload.Dft
