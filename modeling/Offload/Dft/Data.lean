import Offload.Dft.Parameter
import Offload.Error

/-!
# Data of a transform

The arrays that a transform reads and writes, and the four ways to pass them in one call.
-/

set_option autoImplicit false

namespace Offload.Dft

open Number

inductive Samples
  | real (f : Format) (xs : Array (Binary f))
  | complex (f : Format) (zs : Array (Complex (Binary f)))

namespace Samples

def length : Samples → Nat
  | real _ xs => xs.size
  | complex _ zs => zs.size

def isComplex : Samples → Bool
  | real .. => false
  | complex .. => true

def format : Samples → Format
  | real f _ => f
  | complex f _ => f

def zeros (f : Format) (isComplex : Bool) (length : Nat) : Samples :=
  if isComplex then complex f (Array.replicate length ⟨.zero f, .zero f⟩)
  else real f (Array.replicate length (.zero f))

/-- The stored number of one part of an element; a missing part is zero. -/
def part (f : Format) (parts : List Exact) (n : Nat) : Binary f :=
  .ofExact f ((parts.drop n).headD (.finite false 0 0))

def ofParts (f : Format) (isComplex : Bool) (elements : List (List Exact)) : Samples :=
  if isComplex then complex f (elements.map fun ps => ⟨part f ps 0, part f ps 1⟩).toArray
  else real f (elements.map fun ps => part f ps 0).toArray

def parts : Samples → List (List Exact)
  | real _ xs => xs.toList.map fun x => [x.exact]
  | complex _ zs => zs.toList.map fun z => [z.re.exact, z.im.exact]

def write (i : Nat) (parts : List Exact) : Samples → Samples
  | real f xs => real f (xs.setIfInBounds i (part f parts 0))
  | complex f zs => complex f (zs.setIfInBounds i ⟨part f parts 0, part f parts 1⟩)

/-- The data with one element replaced by that of the given parts, if there is such an element. -/
def write? (i : Int) (parts : List Exact) (data : Samples) : Option Samples :=
  if 0 ≤ i ∧ i < data.length then some (data.write i.toNat parts) else none

end Samples

inductive Args (β : Type)
  | inPlace (data : β)
  | inPlaceSplit (re im : β)
  | outOfPlace (input output : β)
  | outOfPlaceSplit (inputRe inputIm outputRe outputIm : β)

namespace Args

variable {β γ : Type}

def placement : Args β → Placement
  | inPlace .. | inPlaceSplit .. => .inPlace
  | outOfPlace .. | outOfPlaceSplit .. => .outOfPlace

def storage : Args β → Storage
  | inPlace .. | outOfPlace .. => .interleaved
  | inPlaceSplit .. | outOfPlaceSplit .. => .split

def toList : Args β → List β
  | inPlace data => [data]
  | inPlaceSplit re im => [re, im]
  | outOfPlace input output => [input, output]
  | outOfPlaceSplit inputRe inputIm outputRe outputIm => [inputRe, inputIm, outputRe, outputIm]

def names : Args β → List String
  | inPlace .. => ["inout"]
  | inPlaceSplit .. => ["re", "im"]
  | outOfPlace .. => ["input", "output"]
  | outOfPlaceSplit .. => ["input_re", "input_im", "output_re", "output_im"]

def outputs : Args β → List β
  | inPlace data => [data]
  | inPlaceSplit re im => [re, im]
  | outOfPlace _ output => [output]
  | outOfPlaceSplit _ _ outputRe outputIm => [outputRe, outputIm]

def map (f : β → γ) : Args β → Args γ
  | inPlace data => inPlace (f data)
  | inPlaceSplit re im => inPlaceSplit (f re) (f im)
  | outOfPlace input output => outOfPlace (f input) (f output)
  | outOfPlaceSplit inputRe inputIm outputRe outputIm =>
    outOfPlaceSplit (f inputRe) (f inputIm) (f outputRe) (f outputIm)

theorem length_names (args : Args β) : args.names.length = args.toList.length := by
  cases args <;> rfl

theorem outputs_map (args : Args β) (f : β → γ) : (args.map f).outputs = args.outputs.map f := by
  cases args <;> rfl

end Args

end Offload.Dft
