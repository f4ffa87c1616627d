import Offload.Number.Bounds
import Offload.Number.Power
import Offload.Toml.Value

/-!
# Numbers, dates and truth values

These values are written without quotes. Each is one word of letters, digits and a few signs, except
that a date and a time may stand apart by one space. The functions here judge a whole word.
-/

set_option autoImplicit false

namespace Offload.Toml

open Number

def digitOf (base : Nat) (c : Char) : Option Nat :=
  let value :=
    if c.isDigit then some (c.toNat - 48)
    else if 'a' ≤ c && c ≤ 'f' then some (c.toNat - 87)
    else if 'A' ≤ c && c ≤ 'F' then some (c.toNat - 55)
    else none
  value.filter (· < base)

/-- The digits of a number in which an underscore may stand between two digits. -/
def spacedDigits (base : Nat) : List Char → Option (List Nat)
  | [] => none
  | [c] => (digitOf base c).map ([·])
  | c :: '_' :: rest =>
    match digitOf base c, spacedDigits base rest with
    | some d, some ds => some (d :: ds)
    | _, _ => none
  | c :: rest =>
    match digitOf base c, spacedDigits base rest with
    | some d, some ds => some (d :: ds)
    | _, _ => none

def ofDigits (base : Nat) (ds : List Nat) : Nat := ds.foldl (fun n d => n * base + d) 0

def splitSign : List Char → Bool × List Char
  | '+' :: rest => (false, rest)
  | '-' :: rest => (true, rest)
  | cs => (false, cs)

def plainDigits (cs : List Char) : Option (List Nat) :=
  match spacedDigits 10 cs with
  | some (0 :: _ :: _) => none
  | found => found

def integer? (cs : List Char) : Option Int :=
  let inRange := fun n : Int => if InInt64 n then some n else none
  let based := fun (base : Nat) (digits : List Char) =>
    (spacedDigits base digits).bind fun ds => inRange (ofDigits base ds)
  match cs with
  | '0' :: 'x' :: rest => based 16 rest
  | '0' :: 'o' :: rest => based 8 rest
  | '0' :: 'b' :: rest => based 2 rest
  | _ =>
    let (negative, rest) := splitSign cs
    (plainDigits rest).bind fun ds =>
      let n : Int := ofDigits 10 ds
      inRange (if negative then -n else n)

/-- The number `digits * 10 ^ exponent` rounds to infinity in double precision: it is at least half
a unit above the largest finite number. Extreme exponents are told by their size alone. -/
def roundsToInfinity (digits : List Nat) (exponent : Int) : Bool :=
  let significant := digits.dropWhile (· == 0)
  let size := exponent + significant.length
  if significant.isEmpty || size < 300 then false
  else if size > 320 then true
  else
    let n := ofDigits 10 significant
    let limit := pow2 1024 - pow2 970
    limit * pow10 (-exponent).toNat ≤ n * pow10 exponent.toNat

def floatExponent? (cs : List Char) : Option Int :=
  let (negative, rest) := splitSign cs
  (spacedDigits 10 rest).map fun ds =>
    if negative then -(ofDigits 10 ds : Int) else ofDigits 10 ds

/-- The word is a float: an integer part with a fraction, an exponent or both, or a special value.
Numbers too large to be finite are refused, except negative ones. -/
def isFloat (cs : List Char) : Bool :=
  let (negative, rest) := splitSign cs
  if rest = ['i', 'n', 'f'] ∨ rest = ['n', 'a', 'n'] then true
  else
    let isMark := fun c => c == 'e' || c == 'E'
    let mantissa := rest.takeWhile (!isMark ·)
    let exponent? := match rest.dropWhile (!isMark ·) with
      | [] => some none
      | _ :: after => (floatExponent? after).map some
    let whole := mantissa.takeWhile (· != '.')
    let fraction? := match mantissa.dropWhile (· != '.') with
      | [] => some none
      | _ :: after => (spacedDigits 10 after).map some
    match plainDigits whole, fraction?, exponent? with
    | some _, some none, some none => false
    | some ds, some fraction, some exponent =>
      let fs := fraction.getD []
      negative || !roundsToInfinity (ds ++ fs) (exponent.getD 0 - fs.length)
    | _, _, _ => false

def twoDigits? : List Char → Option Nat
  | [a, b] => match digitOf 10 a, digitOf 10 b with
    | some x, some y => some (10 * x + y)
    | _, _ => none
  | _ => none

def daysIn (year month : Nat) : Nat :=
  if month = 2 then
    if year % 4 = 0 ∧ (year % 100 ≠ 0 ∨ year % 400 = 0) then 29 else 28
  else if month ∈ [4, 6, 9, 11] then 30 else 31

def isDate (cs : List Char) : Bool :=
  match cs with
  | [y1, y2, y3, y4, '-', m1, m2, '-', d1, d2] =>
    match twoDigits? [y1, y2], twoDigits? [y3, y4], twoDigits? [m1, m2], twoDigits? [d1, d2] with
    | some century, some y, some month, some day =>
      1 ≤ month && month ≤ 12 && 1 ≤ day && day ≤ daysIn (100 * century + y) month
    | _, _, _, _ => false
  | _ => false

def isClock : List Char → Bool
  | [h1, h2, ':', m1, m2] =>
    match twoDigits? [h1, h2], twoDigits? [m1, m2] with
    | some h, some m => h ≤ 23 && m ≤ 59
    | _, _ => false
  | _ => false

def isTime (cs : List Char) : Bool :=
  match cs.drop 5 with
  | ':' :: s1 :: s2 :: fraction =>
    isClock (cs.take 5) && (twoDigits? [s1, s2]).any (· ≤ 60) &&
      match fraction with
      | [] => true
      | '.' :: ds => !ds.isEmpty && ds.all Char.isDigit
      | _ => false
  | _ => false

def isOffsetTime (cs : List Char) : Bool :=
  let isOffset := fun c => c == 'Z' || c == 'z' || c == '+' || c == '-'
  let time := cs.takeWhile (!isOffset ·)
  match cs.dropWhile (!isOffset ·) with
  | [] => isTime time
  | ['Z'] | ['z'] => isTime time
  | '+' :: offset | '-' :: offset => isTime time && isClock offset
  | _ => false

/-- The word is a date, a time, or both joined by a `T` or a space. -/
def isDatetime (cs : List Char) : Bool :=
  isTime cs || isDate cs ||
    match cs.drop 10 with
    | c :: time => (c == 'T' || c == 't' || c == ' ') && isDate (cs.take 10) && isOffsetTime time
    | [] => false

def scalar? (cs : List Char) : Option Value :=
  if cs = "true".toList then some (.boolean true)
  else if cs = "false".toList then some (.boolean false)
  else if isDatetime cs then some (.datetime (String.ofList cs))
  else if isFloat cs then some (.float (String.ofList cs))
  else (integer? cs).map .integer

end Offload.Toml
