import Offload.Text.VisibleTable

/-!
# Quoted text

A text between double quotes. Quotes, backslashes and the common controls are written with a
backslash, every other character that is not visible by its code point.
-/

set_option autoImplicit false

namespace Offload.Text

def hexDigits (n : Nat) : List Char := Nat.toDigits 16 n

/-- How one character is written between double quotes. -/
def quotedChar (c : Char) : List Char :=
  if c == '"' then ['\\', '"']
  else if c == '\\' then ['\\', '\\']
  else if c == '\t' then ['\\', 't']
  else if c == '\r' then ['\\', 'r']
  else if c == '\n' then ['\\', 'n']
  else if c.toNat == 0 then ['\\', '0']
  else if isVisible c then [c]
  else ['\\', 'u', '\x7b'] ++ hexDigits c.toNat ++ ['\x7d']

def quoted (s : String) : String :=
  String.ofList (['"'] ++ s.toList.flatMap quotedChar ++ ['"'])

end Offload.Text
