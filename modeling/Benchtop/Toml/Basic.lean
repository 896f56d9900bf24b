/-!
# TOML documents

A document is a tree of named entries. `Node` keeps, besides the value, how a table came about,
because that decides what may still be added to it: a table under a header of its own is closed to
dotted keys, one that only a longer header implied may get a header later, and one made by dotted
keys may grow by dotted keys only.
-/

namespace Benchtop.Toml

/-- How a table came about. -/
inductive Origin where
  /-- By a header of its own. -/
  | header
  /-- Implied by the header of a table inside it. -/
  | implied
  /-- By a dotted key. -/
  | dotted
  deriving DecidableEq, Repr

inductive Node where
  | integer (n : Int)
  | boolean (b : Bool)
  | string (text : String)
  | float
  | dateTime
  | array (items : List Node)
  /-- A table in braces, to which nothing can be added. -/
  | inlineTable (entries : List (String × Node))
  | table (origin : Origin) (entries : List (String × Node))
  /-- The tables under a header in double brackets, the latest apart. -/
  | tables (earlier : List (List (String × Node))) (latest : List (String × Node))

abbrev Entries := List (String × Node)

namespace Entries

/-- Puts a node in the place of the one of the same key. -/
def replace (key : String) (node : Node) : Entries → Entries
  | [] => []
  | (k, n) :: rest => if k = key then (k, node) :: rest else (k, n) :: replace key node rest

/-- Adds an entry under a new key. -/
def addNew (key : String) (node : Node) (entries : Entries) : Option Entries :=
  if (entries.lookup key).isSome then none else some (entries ++ [(key, node)])

/-- Adds a node under a dotted key. `mayEnd` says that the key's last part may stand here. -/
def insert : (mayEnd : Bool) → List String → Node → Entries → Option Entries
  | _, [], _, _ => none
  | mayEnd, [key], node, entries => if mayEnd then addNew key node entries else none
  | _, key :: rest, node, entries =>
    match entries.lookup key with
    | none => do return entries ++ [(key, .table .dotted (← insert true rest node []))]
    | some (.table .dotted inner) => do
      return replace key (.table .dotted (← insert true rest node inner)) entries
    | some (.table .implied inner) => do
      return replace key (.table .implied (← insert false rest node inner)) entries
    | some (.tables earlier latest) => do
      return replace key (.tables earlier (← insert false rest node latest)) entries
    | some _ => none

/-- Changes the table that a path of keys leads to. Tables on the way are made where there are
none; of tables in double brackets, the latest is meant. -/
def alter (change : Entries → Option Entries) : List String → Entries → Option Entries
  | [], entries => change entries
  | key :: rest, entries =>
    match entries.lookup key with
    | none => do return entries ++ [(key, .table .implied (← alter change rest []))]
    | some (.table origin inner) => do
      return replace key (.table origin (← alter change rest inner)) entries
    | some (.tables earlier latest) => do
      return replace key (.tables earlier (← alter change rest latest)) entries
    | some _ => none

/-- Begins a table under a header. -/
def openTable (key : String) (entries : Entries) : Option Entries :=
  match entries.lookup key with
  | none => some (entries ++ [(key, .table .header [])])
  | some (.table .implied inner) => some (replace key (.table .header inner) entries)
  | some _ => none

/-- Begins one more table under a header in double brackets. -/
def openTables (key : String) (entries : Entries) : Option Entries :=
  match entries.lookup key with
  | none => some (entries ++ [(key, .tables [] [])])
  | some (.tables earlier latest) =>
    some (replace key (.tables (earlier ++ [latest]) []) entries)
  | some _ => none

end Entries

end Benchtop.Toml
