/-!
# Blank characters

The blank characters are those of the Unicode property `White_Space`. `trim` drops them from both
ends of a text and touches nothing in between.
-/

set_option autoImplicit false

namespace Offload.Text

/-- A character of the Unicode property `White_Space`. -/
def isBlank (c : Char) : Bool :=
  let n := c.toNat
  (9 ≤ n && n ≤ 13) || n == 0x20 || n == 0x85 || n == 0xA0 || n == 0x1680 ||
    (0x2000 ≤ n && n ≤ 0x200A) || n == 0x2028 || n == 0x2029 || n == 0x202F || n == 0x205F ||
    n == 0x3000

def trimEnd (cs : List Char) : List Char := (cs.reverse.dropWhile isBlank).reverse

def trim (cs : List Char) : List Char := trimEnd (cs.dropWhile isBlank)

def trimmed (s : String) : String := String.ofList (trim s.toList)

theorem trim_of_forall_not_blank {cs : List Char} (h : ∀ c ∈ cs, isBlank c = false) :
    trim cs = cs := by
  have keep : ∀ ds : List Char, (∀ c ∈ ds, isBlank c = false) → ds.dropWhile isBlank = ds := by
    intro ds hds
    cases ds with
    | nil => rfl
    | cons d rest => simp [List.dropWhile, hds d (List.mem_cons_self ..)]
  simp only [trim, trimEnd, keep cs h]
  rw [keep cs.reverse (fun c hc => h c (List.mem_reverse.1 hc)), List.reverse_reverse]

end Offload.Text
