import Offload.Text.CaseTable

/-!
# Lowercase text

Full lowercasing by the Unicode rules that hold in every language. Each character has its own
lowercase form, with two exceptions: U+0130 becomes two characters, and a capital sigma takes its
final form where a word ends.
-/

set_option autoImplicit false

namespace Offload.Text

def lowerChar (c : Char) : List Char :=
  if c.toNat < 0x80 then [c.toLower]
  else if c.toNat == 0x130 then ['i', Char.ofNat 0x307]
  else
    match lowercaseRuns.find? (·.contains c.toNat) with
    | some run => [Char.ofNat (c.toNat + run.shift).toNat]
    | none => [c]

def meetsCased (cs : List Char) : Bool :=
  match cs.dropWhile fun c => inRanges caseIgnorableRanges c.toNat with
  | c :: _ => inRanges casedRanges c.toNat
  | [] => false

/-- The lowercase form of `c` between the text `before`, given last character first, and `after`.
A sigma is final when a cased letter precedes it and none follows. -/
def lowerAt (before : List Char) (c : Char) (after : List Char) : List Char :=
  if c == 'Σ' then
    if meetsCased before && !meetsCased after then ['ς'] else ['σ']
  else lowerChar c

def lowerAfter (before : List Char) : List Char → List Char
  | [] => []
  | c :: rest => lowerAt before c rest ++ lowerAfter (c :: before) rest

def lower (cs : List Char) : List Char := lowerAfter [] cs

def lowered (s : String) : String := String.ofList (lower s.toList)

/-- The two texts differ at most in the case of ASCII letters. -/
def equalsIgnoringAsciiCase (a b : String) : Bool :=
  a.toList.map Char.toLower == b.toList.map Char.toLower

theorem lowerAt_of_ascii {before after : List Char} {c : Char} (h : c.toNat < 0x80) :
    lowerAt before c after = [c.toLower] := by
  have hc : (c == 'Σ') = false := by
    rw [beq_eq_false_iff_ne]
    rintro rfl
    revert h
    decide
  simp [lowerAt, hc, lowerChar, h]

theorem lower_of_ascii {cs : List Char} (h : ∀ c ∈ cs, c.toNat < 0x80) :
    lower cs = cs.map Char.toLower := by
  have aux : ∀ (cs before : List Char), (∀ c ∈ cs, c.toNat < 0x80) →
      lowerAfter before cs = cs.map Char.toLower := by
    intro cs
    induction cs with
    | nil => intro _ _; rfl
    | cons c rest ih =>
        intro before hcs
        simp only [lowerAfter, List.map_cons]
        rw [lowerAt_of_ascii (hcs c (List.mem_cons_self ..)),
          ih (c :: before) (fun d hd => hcs d (List.mem_cons_of_mem _ hd))]
        rfl
  exact aux cs [] h

end Offload.Text
