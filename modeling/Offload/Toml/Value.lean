/-!
# Values and tables of a TOML document

A document is a table of values. While it is read, each table remembers how it came about, because
that decides who may add to it: a table opened by a header is closed to dotted keys, one that dotted
keys made is closed to headers, and a written value is closed to both.
-/

set_option autoImplicit false

namespace Offload.Toml

/-- A value. Of floats and dates only the text is kept. -/
inductive Value
  | string (s : String)
  | integer (n : Int)
  | float (text : String)
  | boolean (b : Bool)
  | datetime (text : String)
  | array (items : List Value)
  | table (entries : List (String × Value))
deriving Repr

/-- How a table came about. -/
inductive Origin
  | header
  | path
  | dotted
deriving DecidableEq, Repr

/-- An entry of a document that is still being read. -/
inductive Node
  | value (v : Value)
  | table (origin : Origin) (entries : List (String × Node))
  | tables (items : List (List (String × Node)))

abbrev Entries := List (String × Node)

namespace Entries

def update (key : String) (f : Option Node → Option Node) : Entries → Option Entries
  | [] => (f none).map fun node => [(key, node)]
  | (k, node) :: rest =>
    if k = key then (f (some node)).map fun node => (k, node) :: rest
    else (update key f rest).map ((k, node) :: ·)

/-- Follows a path of keys from a table and lets `act` change the table at its end, given how that
table came about. Missing tables on the way are made. -/
def descend (dotted : Bool) (act : Origin → Entries → Option Entries) :
    List String → Origin → Entries → Option Entries
  | [], origin, entries => act origin entries
  | key :: rest, _, entries =>
    update key (fun
      | none =>
        let origin := if dotted then Origin.dotted else Origin.path
        (descend dotted act rest origin []).map (Node.table origin)
      | some (.value _) => none
      | some (.tables items) =>
        match items.reverse with
        | [] => none
        | last :: before =>
          (descend dotted act rest .header last).map fun entries =>
            .tables (entries :: before).reverse
      | some (.table origin inner) =>
        if dotted && origin = .header then none
        else (descend dotted act rest origin inner).map (Node.table origin)) entries

def define (key : String) (v : Value) (entries : Entries) : Option Entries :=
  update key (fun
    | none => some (.value v)
    | some _ => none) entries

/-- Gives the key at the end of a dotted path a value. A path of more than one key may only go
through tables that dotted keys made. -/
def assign (path : List String) (key : String) (v : Value) (origin : Origin) (entries : Entries) :
    Option Entries :=
  descend true (fun origin entries =>
    if !path.isEmpty && origin != .dotted then none else define key v entries) path origin entries

/-- Opens the table of a header. A table that was only passed through so far may be opened once. -/
def openTable (path : List String) (key : String) (entries : Entries) : Option Entries :=
  descend false (fun _ entries =>
    update key (fun
      | none => some (.table .header [])
      | some (.table .path inner) => some (.table .header inner)
      | some _ => none) entries) path .header entries

def openElement (path : List String) (key : String) (entries : Entries) : Option Entries :=
  descend false (fun _ entries =>
    update key (fun
      | none => some (.tables [[]])
      | some (.tables items) => some (.tables (items ++ [[]]))
      | some _ => none) entries) path .header entries

end Entries

mutual

def Node.finish : Node → Value
  | .value v => v
  | .table _ entries => .table (finishEntries entries)
  | .tables items => .array (finishTables items)

def finishEntries : List (String × Node) → List (String × Value)
  | [] => []
  | (key, node) :: rest => (key, node.finish) :: finishEntries rest

def finishTables : List (List (String × Node)) → List Value
  | [] => []
  | entries :: rest => .table (finishEntries entries) :: finishTables rest

end

end Offload.Toml
