import Benchtop.Toml.Text

/-!
# Dialects of TOML documents

A document is a sequence of statements: entries, headers, and lines of nothing but space and a comment. How a
statement is written, and which entries a sequence of them defines, is up to a dialect (`Dialect`), and so
are the values. Of its entries outside all tables this is known (`Dialect.Lawful`): nothing but a statement
about a key defines its entry, and an entry of a new key may be put anywhere before the first header.
-/

namespace Benchtop.Toml

variable {ν : Type}

/-! ## Statements -/

/-- What a line says. -/
inductive Statement (ν : Type) where
  | nothing
  | entry (key : List String) (value : ν)
  | table (key : List String)
  | tables (key : List String)

namespace Statement

/-- The key of the document whose entry a statement under a header is about. -/
def topKey? (header : List String) : Statement ν → Option String
  | nothing => none
  | entry key _ => (header ++ key).head?
  | table key => key.head?
  | tables key => key.head?

/-- The header after a statement. -/
def headerAfter (header : List String) : Statement ν → List String
  | table key => key
  | tables key => key
  | _ => header

end Statement

/-- The header after statements of a document. -/
def headerAfter (statements : List (Statement ν)) : List String :=
  statements.foldl Statement.headerAfter []

/-- The keys of the document that statements, the first of them under a header, are about. -/
def topKeys : (header : List String) → List (Statement ν) → List String
  | _, [] => []
  | header, statement :: statements =>
    (statement.topKey? header).toList ++ topKeys (statement.headerAfter header) statements

theorem headerAfter_concat (before : List (Statement ν)) (statement : Statement ν) :
    headerAfter (before ++ [statement]) = statement.headerAfter (headerAfter before) := by
  simp [headerAfter]

theorem topKeys_append (header : List String) (before after : List (Statement ν)) :
    topKeys header (before ++ after) =
      topKeys header before ++ topKeys (before.foldl Statement.headerAfter header) after := by
  induction before generalizing header with
  | nil => rfl
  | cons statement before ih => simp [topKeys, ih]

theorem mem_topKeys_insert {before : List (Statement ν)} (h : headerAfter before = []) (key : String)
    (value : ν) (after : List (Statement ν)) (name : String) :
    name ∈ topKeys [] (before ++ .entry [key] value :: after) ↔
      name = key ∨ name ∈ topKeys [] (before ++ after) := by
  have hheader : before.foldl Statement.headerAfter [] = [] := h
  simp [topKeys_append, hheader, topKeys, Statement.topKey?, Statement.headerAfter, or_left_comm]

/-! ## Dialects -/

/-- How documents with these values are written, and what they define. -/
structure Dialect (ν : Type) where
  /-- The statement at the beginning of a text, up to the end of its line, and what follows. -/
  statement? : List Char → Option (Statement ν × List Char)
  /-- The entries that statements define, unless they do not go together. -/
  define? : List (Statement ν) → Option (List (String × ν))

namespace Dialect

/-- A text consists of statements, and of space at its end. -/
inductive Document (dialect : Dialect ν) : List (Statement ν) → List Char → Prop
  | blank {text : List Char} (htext : skipSpace text = []) : Document dialect [] text
  | statement {line rest : List Char} {statement : Statement ν} {statements : List (Statement ν)}
    (hline : line ≠ []) (hread : dialect.statement? (line ++ rest) = some (statement, rest))
    (h : Document dialect statements rest) :
    Document dialect (statement :: statements) (line ++ rest)

/-- What TOML says of the entries outside all tables. -/
structure Lawful (dialect : Dialect ν) : Prop where
  /-- A document may be empty. -/
  isSome_define_nil : (dialect.define? []).isSome
  /-- A key has an entry only if a statement is about it. -/
  lookup_define {statements : List (Statement ν)} {entries : List (String × ν)} {key : String}
    (h : dialect.define? statements = some entries) (hkey : key ∉ topKeys [] statements) :
    entries.lookup key = none
  /-- A document may have one more entry, under no header, if no statement is about its key. All other keys
  keep their entries. -/
  define_insert {before after : List (Statement ν)} {entries : List (String × ν)} {key : String}
    (h : dialect.define? (before ++ after) = some entries) (hheader : headerAfter before = [])
    (hkey : key ∉ topKeys [] (before ++ after)) (value : ν) :
    ∃ entries', dialect.define? (before ++ .entry [key] value :: after) = some entries' ∧
      ∀ name, entries'.lookup name = if name = key then some value else entries.lookup name

end Dialect

end Benchtop.Toml
