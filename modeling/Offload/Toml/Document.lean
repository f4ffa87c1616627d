import Offload.Toml.Quoted

/-!
# Documents

A document is a list of lines, each of which is blank, opens a table or gives a key a value. Arrays
and inline tables may nest, and dotted keys may run, up to a fixed limit.
-/

set_option autoImplicit false

namespace Offload.Toml

/-- Values may nest, and keys may be dotted, to less than this many levels. -/
def levelLimit : Nat := 80

def skipTrailing (cs : List Char) : List Char :=
  match cs.dropWhile isSpace with
  | '#' :: rest => rest.dropWhile isTextChar
  | rest => rest

def endLine (cs : List Char) : Option (List Char) :=
  match skipTrailing cs with
  | [] => some []
  | rest => dropNewline rest

/-- The text after blanks, comments and line ends. A line end inside an array ends a comment. -/
def skipLines : Nat → List Char → List Char
  | 0, cs => cs
  | fuel + 1, cs =>
    let rest := skipTrailing cs
    match dropNewline rest with
    | some after => skipLines fuel after
    | none => rest

def isBareChar (c : Char) : Bool := c.isAlphanum || c == '_' || c == '-'

def simpleKey? (cs : List Char) : Option (String × List Char) :=
  match cs with
  | '"' :: rest => (basic rest).map fun (key, rest) => (String.ofList key, rest)
  | '\'' :: rest => (literal rest).map fun (key, rest) => (String.ofList key, rest)
  | _ =>
    let key := cs.takeWhile isBareChar
    if key.isEmpty then none else some (String.ofList key, cs.dropWhile isBareChar)

def dottedKey : Nat → List Char → Option (List String × List Char)
  | 0, _ => none
  | fuel + 1, cs =>
    match simpleKey? (cs.dropWhile isSpace) with
    | none => none
    | some (key, rest) =>
      match rest.dropWhile isSpace with
      | '.' :: after => (dottedKey fuel after).map fun (keys, rest) => (key :: keys, rest)
      | rest => some ([key], rest)

def key? (cs : List Char) : Option (List String × List Char) :=
  (dottedKey (cs.length + 1) cs).filter fun (keys, _) => keys.length < levelLimit

def isWordChar (c : Char) : Bool :=
  c.isAlphanum || c == '_' || c == '+' || c == '-' || c == '.' || c == ':'

/-- The word at the start of the text. A time that follows a date after one space belongs to it. -/
def word (cs : List Char) : List Char × List Char :=
  let first := cs.takeWhile isWordChar
  let rest := cs.dropWhile isWordChar
  match rest with
  | ' ' :: c :: more =>
    if isDate first && c.isDigit then
      (first ++ ' ' :: (c :: more).takeWhile isWordChar, (c :: more).dropWhile isWordChar)
    else (first, rest)
  | _ => (first, rest)

mutual

/-- The value at the start of the text, `level` levels below the limit. -/
def readValue : Nat → Nat → List Char → Option (Value × List Char)
  | 0, _, _ => none
  | fuel + 1, level, cs =>
    match cs with
    | '[' :: rest =>
      match level with
      | 0 => none
      | below + 1 => (readItems fuel below rest).map fun (items, rest) => (.array items, rest)
    | '\x7b' :: rest =>
      match level with
      | 0 => none
      | below + 1 =>
        match rest.dropWhile isSpace with
        | '\x7d' :: after => some (.table [], after)
        | after =>
          (readPairs fuel below [] after).map fun (entries, rest) =>
            (.table (finishEntries entries), rest)
    | '"' :: _ | '\'' :: _ =>
      (quoted? cs).map fun (s, rest) => (.string (String.ofList s), rest)
    | _ =>
      let (text, rest) := word cs
      (scalar? text).map fun v => (v, rest)

/-- The rest of an array. A comma may follow the last item. -/
def readItems : Nat → Nat → List Char → Option (List Value × List Char)
  | 0, _, _ => none
  | fuel + 1, level, cs =>
    match skipLines cs.length cs with
    | ']' :: rest => some ([], rest)
    | item =>
      match readValue fuel level item with
      | none => none
      | some (v, rest) =>
        match skipLines rest.length rest with
        | ']' :: after => some ([v], after)
        | ',' :: after => (readItems fuel level after).map fun (vs, rest) => (v :: vs, rest)
        | _ => none

/-- The rest of an inline table, all but its line ends on one line, after the entries read so far. No
comma follows the last pair. -/
def readPairs : Nat → Nat → Entries → List Char → Option (Entries × List Char)
  | 0, _, _, _ => none
  | fuel + 1, level, entries, cs =>
    match readPair fuel level cs with
    | none => none
    | some (keys, v, rest) =>
      match Entries.assign keys.dropLast (keys.getLastD "") v .header entries with
      | none => none
      | some entries =>
        match rest.dropWhile isSpace with
        | '\x7d' :: after => some (entries, after)
        | ',' :: after => readPairs fuel level entries after
        | _ => none

def readPair : Nat → Nat → List Char → Option (List String × Value × List Char)
  | 0, _, _ => none
  | fuel + 1, level, cs =>
    match key? cs with
    | some (keys, '=' :: rest) =>
      (readValue fuel level (rest.dropWhile isSpace)).map fun (v, rest) => (keys, v, rest)
    | _ => none

end

/-- A document that is being read: what it holds so far, and the path of the table that the next
keys belong to. -/
structure Draft where
  root : Entries
  current : List String

def readHeader (draft : Draft) (cs : List Char) : Option (Draft × List Char) :=
  match cs with
  | '[' :: rest =>
    match key? rest with
    | some (keys, ']' :: ']' :: rest) =>
      (Entries.openElement keys.dropLast (keys.getLastD "") draft.root).map fun root =>
        (⟨root, keys⟩, rest)
    | _ => none
  | _ =>
    match key? cs with
    | some (keys, ']' :: rest) =>
      (Entries.openTable keys.dropLast (keys.getLastD "") draft.root).map fun root =>
        (⟨root, keys⟩, rest)
    | _ => none

def readAssignment (draft : Draft) (cs : List Char) : Option (Draft × List Char) :=
  match readPair (2 * cs.length + 2) (levelLimit - 1) cs with
  | none => none
  | some (keys, v, rest) =>
    let assigned := Entries.descend false
      (Entries.assign keys.dropLast (keys.getLastD "") v) draft.current .header draft.root
    assigned.map fun root => (⟨root, draft.current⟩, rest)

def readLines : Nat → Draft → List Char → Option Entries
  | 0, _, _ => none
  | fuel + 1, draft, cs =>
    match skipTrailing cs with
    | [] => some draft.root
    | line =>
      match dropNewline line with
      | some rest => readLines fuel draft rest
      | none =>
        let read := match line with
          | '[' :: rest => readHeader draft rest
          | _ => readAssignment draft line
        match read with
        | none => none
        | some (draft, rest) =>
          match endLine rest with
          | none => none
          | some rest => readLines fuel draft rest

/-- The table of a document, or nothing if it is not well formed. A byte order mark in front of it is
passed over. -/
def parse (s : String) : Option (List (String × Value)) :=
  let cs := match s.toList with
    | c :: rest => if c.toNat == 0xFEFF then rest else c :: rest
    | [] => []
  (readLines (cs.length + 1) ⟨[], []⟩ cs).map finishEntries

end Offload.Toml
