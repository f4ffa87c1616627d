import Offload.Toml.Scalar

/-!
# Quoted strings

Basic strings take escapes, literal strings take every character as it stands. Both kinds come on
one line and, between three quotes, on several lines. Each function here reads what follows the
opening quotes and returns the string with the text after the closing quotes.
-/

set_option autoImplicit false

namespace Offload.Toml

def isSpace (c : Char) : Bool := c == ' ' || c == '\t'

def isTextChar (c : Char) : Bool := c == '\t' || (0x20 ≤ c.toNat && c.toNat != 0x7F)

def dropNewline : List Char → Option (List Char)
  | '\n' :: rest => some rest
  | '\r' :: '\n' :: rest => some rest
  | _ => none

def escapedChar : Char → Option Char
  | 'b' => some (Char.ofNat 8)
  | 't' => some '\t'
  | 'n' => some '\n'
  | 'f' => some (Char.ofNat 12)
  | 'r' => some '\r'
  | '"' => some '"'
  | '\\' => some '\\'
  | _ => none

/-- The character of a code point in hexadecimal digits. Surrogates and numbers beyond the last code
point are none. -/
def codePoint (ds : List Char) : Option Char :=
  let digits := ds.filterMap (digitOf 16)
  let n := ofDigits 16 digits
  if digits.length = ds.length ∧ n.isValidChar then some (Char.ofNat n) else none

/-- Puts a character in front of the string that was read, if both are there. -/
def pushChar (c : Option Char) (read : Option (List Char × List Char)) :
    Option (List Char × List Char) :=
  match c, read with
  | some c, some (cs, rest) => some (c :: cs, rest)
  | _, _ => none

def basic : List Char → Option (List Char × List Char)
  | [] => none
  | '"' :: rest => some ([], rest)
  | '\\' :: 'u' :: a :: b :: c :: d :: rest => pushChar (codePoint [a, b, c, d]) (basic rest)
  | '\\' :: 'U' :: a :: b :: c :: d :: e :: f :: g :: h :: rest =>
    pushChar (codePoint [a, b, c, d, e, f, g, h]) (basic rest)
  | '\\' :: c :: rest => pushChar (escapedChar c) (basic rest)
  | c :: rest => if isTextChar c then pushChar (some c) (basic rest) else none

def literal : List Char → Option (List Char × List Char)
  | [] => none
  | '\'' :: rest => some ([], rest)
  | c :: rest => if isTextChar c then pushChar (some c) (literal rest) else none

def endsLine (cs : List Char) : Bool := (dropNewline (cs.dropWhile isSpace)).isSome

/-- Three closing quotes may follow up to two quotes of the string itself: the string's share of a
run of quotes, and the text after the run, when the run closes the string. -/
def closing (quote : Char) : List Char → Option (List Char × List Char)
  | a :: b :: c :: d :: e :: rest =>
    if a == quote && b == quote && c == quote then
      if d == quote then
        if e == quote then some ([quote, quote], rest) else some ([quote], e :: rest)
      else some ([], d :: e :: rest)
    else none
  | [a, b, c, d] =>
    if a == quote && b == quote && c == quote then
      if d == quote then some ([quote], []) else some ([], [d])
    else none
  | [a, b, c] => if a == quote && b == quote && c == quote then some ([], []) else none
  | _ => none

/-- A basic string of several lines. A backslash at the end of a line drops the line end and all
blanks and line ends after it, which `skipping` carries on. -/
def multiBasic (skipping : Bool) : List Char → Option (List Char × List Char)
  | [] => none
  | '\r' :: '\n' :: rest =>
    if skipping then multiBasic true rest else pushChar (some '\n') (multiBasic false rest)
  | '\n' :: rest =>
    if skipping then multiBasic true rest else pushChar (some '\n') (multiBasic false rest)
  | '\\' :: 'u' :: a :: b :: c :: d :: rest =>
    pushChar (codePoint [a, b, c, d]) (multiBasic false rest)
  | '\\' :: 'U' :: a :: b :: c :: d :: e :: f :: g :: h :: rest =>
    pushChar (codePoint [a, b, c, d, e, f, g, h]) (multiBasic false rest)
  | '\\' :: c :: rest =>
    if endsLine (c :: rest) then multiBasic true (c :: rest)
    else pushChar (escapedChar c) (multiBasic false rest)
  | c :: rest =>
    match closing '"' (c :: rest) with
    | some found => some found
    | none =>
      if skipping && isSpace c then multiBasic true rest
      else if isTextChar c then pushChar (some c) (multiBasic false rest)
      else none

def multiLiteral : List Char → Option (List Char × List Char)
  | [] => none
  | '\r' :: '\n' :: rest => pushChar (some '\n') (multiLiteral rest)
  | '\n' :: rest => pushChar (some '\n') (multiLiteral rest)
  | c :: rest =>
    match closing '\'' (c :: rest) with
    | some found => some found
    | none => if isTextChar c then pushChar (some c) (multiLiteral rest) else none

/-- A string of any kind, from its opening quotes on. A line end right after three opening quotes
does not belong to the string. -/
def quoted? (cs : List Char) : Option (List Char × List Char) :=
  let afterNewline := fun rest : List Char => (dropNewline rest).getD rest
  match cs with
  | '"' :: '"' :: '"' :: rest => multiBasic false (afterNewline rest)
  | '"' :: rest => basic rest
  | '\'' :: '\'' :: '\'' :: rest => multiLiteral (afterNewline rest)
  | '\'' :: rest => literal rest
  | _ => none

end Offload.Toml
