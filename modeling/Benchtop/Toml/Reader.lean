import Benchtop.Toml.Scalar
import Benchtop.Toml.Text

/-!
# Reading a TOML document

A document is read line by line: an entry, a header, or nothing but space and a comment. Entries go
into the table of the header before them. `Toml.read?` gives the entries of the document, or nothing
if it is none.
-/

namespace Benchtop.Toml

/-! ## Values -/

abbrev ValueReader := List Char → Option (Node × List Char)

/-- Reads a value without parts. -/
def readFlat : ValueReader := fun input =>
  match input with
  | '"' :: _ => (readString input).map fun (text, rest) => (.string (String.ofList text), rest)
  | '\'' :: _ => (readString input).map fun (text, rest) => (.string (String.ofList text), rest)
  | _ => readScalar input

/-- Reads the items of an array and its closing bracket. -/
def readItems (value : ValueReader) : (fuel : Nat) → List Char → Option (List Node × List Char)
  | 0, _ => none
  | fuel + 1, input =>
    match skipFiller false input with
    | ']' :: rest => some ([], rest)
    | input => do
      let (item, rest) ← value input
      match skipFiller false rest with
      | ',' :: rest =>
        let (items, rest) ← readItems value fuel rest
        return (item :: items, rest)
      | ']' :: rest => return ([item], rest)
      | _ => none

/-- Reads a key, an equals sign and a value. -/
def readEntry (value : ValueReader) (input : List Char) :
    Option (List String × Node × List Char) := do
  let (key, rest) ← readKey input
  match rest with
  | '=' :: rest =>
    let (node, rest) ← value (skipSpace rest)
    return (key, node, rest)
  | _ => none

/-- Reads the entries of a table in braces, of which there is at least one more, and the closing
brace. -/
def readPairs (value : ValueReader) :
    (fuel : Nat) → Entries → List Char → Option (Entries × List Char)
  | 0, _, _ => none
  | fuel + 1, entries, input => do
    let (key, node, rest) ← readEntry value input
    let entries ← entries.insert true key node
    match skipSpace rest with
    | ',' :: rest => readPairs value fuel entries rest
    | '\x7d' :: rest => return (entries, rest)
    | _ => none

/-- Reads a value that is nested at most `depth` deep. -/
def readValue : (depth : Nat) → ValueReader
  | 0 => readFlat
  | depth + 1 => fun input =>
    match input with
    | '[' :: rest => do
      let (items, rest) ← readItems (readValue depth) (rest.length + 1) rest
      return (.array items, rest)
    | '\x7b' :: rest =>
      match skipSpace rest with
      | '\x7d' :: rest => some (.inlineTable [], rest)
      | rest => do
        let (entries, rest) ← readPairs (readValue depth) (rest.length + 1) [] rest
        return (.inlineTable entries, rest)
    | _ => readFlat input

/-! ## Documents -/

/-- What has been read of a document: its entries, and the header that applies. -/
structure Reading where
  entries : Entries := []
  header : List String := []

/-- Reads a header after its opening brackets. -/
def readHeader (start : String → Entries → Option Entries) (closing : List Char)
    (reading : Reading) (input : List Char) : Option (Reading × List Char) := do
  let (key, rest) ← readKey input
  let last ← key.getLast?
  if rest.take closing.length = closing then
    let rest ← afterLine? (rest.drop closing.length)
    let entries ← reading.entries.alter (start last) key.dropLast
    return (⟨entries, key⟩, rest)
  else none

/-- Reads one line. -/
def readLine (reading : Reading) (input : List Char) : Option (Reading × List Char) :=
  match input with
  | '#' :: _ => (afterLine? input).map fun rest => (reading, rest)
  | '\n' :: _ => (afterNewline? input).map fun rest => (reading, rest)
  | '\r' :: _ => (afterNewline? input).map fun rest => (reading, rest)
  | '[' :: '[' :: rest => readHeader Entries.openTables [']', ']'] reading rest
  | '[' :: rest => readHeader Entries.openTable [']'] reading rest
  | _ => do
    let (key, node, rest) ← readEntry (readValue (depthLimit - 1)) input
    let rest ← afterLine? rest
    let entries ← reading.entries.alter (fun table => table.insert true key node) reading.header
    return (⟨entries, reading.header⟩, rest)

/-- Reads the lines to the end. -/
def readLines : (fuel : Nat) → Reading → List Char → Option Entries
  | 0, _, _ => none
  | fuel + 1, reading, input =>
    match skipSpace input with
    | [] => some reading.entries
    | input => do
      let (reading, rest) ← readLine reading input
      readLines fuel reading rest

/-- The entries of a document. A byte order mark at its start does not count. -/
def read? (document : List Char) : Option Entries :=
  let document := match document with
    | c :: rest => if c.toNat = 0xFEFF then rest else document
    | [] => []
  readLines (document.length + 1) {} document

end Benchtop.Toml
