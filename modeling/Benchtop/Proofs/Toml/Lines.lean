import Benchtop.Proofs.Toml.Entries
import Benchtop.Proofs.Toml.Dialect
import Benchtop.Proofs.Toml.Printed

/-!
# The lines of a document

What a line says does not depend on what has been read before it (`Statement`), so reading a line is
reading its statement and then applying it (`readLine_eq`). A statement acts at one key of the
document, `Statement.topKey?`.

Main statements: a line of a bare key and a number or a truth value is read as this entry
(`Statement.read?_entry`), and a statement does the same whatever entries there are of other keys
(`Reading.Beside.apply`).
-/

namespace Benchtop.Toml

open Text

/-! ## Statements -/

/-- Reads the key of a header and what closes it. -/
def headerKey? (closing : List Char) (input : List Char) : Option (List String × List Char) := do
  let (key, rest) ← readKey input
  if rest.take closing.length = closing then
    return (key, ← afterLine? (rest.drop closing.length))
  else none

/-- Begins a table under a header. -/
def Reading.begin (start : String → Entries → Option Entries) (key : List String)
    (reading : Reading) : Option Reading := do
  let last ← key.getLast?
  return ⟨← reading.entries.alter (start last) key.dropLast, key⟩

namespace Statement

/-- Reads the statement of a line. -/
def read? (input : List Char) : Option (Statement Node × List Char) :=
  match input with
  | '#' :: _ => (afterLine? input).map fun rest => (nothing, rest)
  | '\n' :: _ => (afterNewline? input).map fun rest => (nothing, rest)
  | '\r' :: _ => (afterNewline? input).map fun rest => (nothing, rest)
  | '[' :: '[' :: rest => (headerKey? [']', ']'] rest).map fun (key, rest) => (tables key, rest)
  | '[' :: rest => (headerKey? [']'] rest).map fun (key, rest) => (table key, rest)
  | _ => do
    let (key, node, rest) ← readEntry (readValue (depthLimit - 1)) input
    return (entry key node, ← afterLine? rest)

/-- What a statement makes of what has been read before it. -/
def apply (reading : Reading) : Statement Node → Option Reading
  | nothing => some reading
  | entry key node =>
    (reading.entries.alter (fun table => table.insert true key node) reading.header).map
      (⟨·, reading.header⟩)
  | table key => reading.begin Entries.openTable key
  | tables key => reading.begin Entries.openTables key

end Statement

theorem readHeader_eq (start : String → Entries → Option Entries) (closing : List Char)
    (reading : Reading) (input : List Char) :
    readHeader start closing reading input =
      (headerKey? closing input).bind fun (key, rest) =>
        (reading.begin start key).map fun reading => (reading, rest) := by
  unfold readHeader headerKey? Reading.begin
  rcases readKey input with _ | ⟨key, rest⟩
  · rfl
  by_cases hclosing : rest.take closing.length = closing
  · cases hlast : key.getLast? <;> cases hafter : afterLine? (rest.drop closing.length) <;>
      simp [hclosing, hlast, hafter, Option.map_eq_bind, Option.bind_assoc]
  · simp [hclosing]

/-- Reading a line is reading its statement and applying it. -/
theorem readLine_eq (reading : Reading) (input : List Char) :
    readLine reading input =
      (Statement.read? input).bind fun (statement, rest) =>
        (statement.apply reading).map fun reading => (reading, rest) := by
  unfold readLine Statement.read?
  split
  · cases afterLine? _ <;> rfl
  · cases afterNewline? _ <;> rfl
  · cases afterNewline? _ <;> rfl
  · next rest =>
    rw [readHeader_eq]
    simp only [Option.bind_map, Function.comp_def, Statement.apply]
  · next rest _ =>
    rw [readHeader_eq]
    simp only [Option.bind_map, Function.comp_def, Statement.apply]
  · simp [Option.map_eq_bind, Option.bind_assoc, Statement.apply]

/-- The statement of a line with a bare key and a number or word. -/
theorem Statement.read?_entry {name : String} (h : IsBareName name) {text : List Char} {node : Node}
    (hne : text ≠ []) (hall : ∀ c ∈ text, isScalarChar c = true) (hnode : scalar? text = some node)
    (rest : List Char) :
    read? (name.toList ++ ' ' :: '=' :: ' ' :: (text ++ '\n' :: rest)) =
      some (entry [name] node, rest) := by
  obtain ⟨c, cs, hname, hc⟩ := h.exists_cons
  have hentry := readEntry_printed h hne hall hnode (depthLimit - 1) rest
  rw [hname, List.cons_append] at hentry ⊢
  unfold read?
  split
  case h_1 heq | h_2 heq | h_3 heq | h_4 heq | h_5 heq =>
    exact absurd (List.cons.inj heq).1 (ne_of_isBareKeyChar hc (by decide))
  case h_6 =>
    rw [hentry]
    rfl

/-! ## Statements side by side -/

theorem Statement.apply_header {statement : Statement Node} {reading reading' : Reading}
    (h : statement.apply reading = some reading') :
    reading'.header = statement.headerAfter reading.header := by
  cases statement with
  | nothing => cases h; rfl
  | entry key node =>
    obtain ⟨_, _, rfl⟩ := Option.map_eq_some_iff.1 h
    rfl
  | table key | tables key =>
    simp only [apply, Reading.begin, Option.bind_eq_bind, Option.bind_eq_some_iff] at h
    obtain ⟨last, -, entries, -, h⟩ := h
    cases h
    rfl

theorem actsAt_begin {start : String → Entries → Option Entries}
    (hstart : ∀ key, Entries.ActsAt key (start key)) (key : String) (rest : List String) :
    Entries.ActsAt key
      (Entries.alter (start ((key :: rest).getLast (List.cons_ne_nil _ _))) (key :: rest).dropLast) := by
  cases rest with
  | nil => exact hstart key
  | cons next rest => exact Entries.actsAt_alter _ key _

/-- A statement that can be applied acts at its key, if it has one. -/
theorem Statement.apply_acts (statement : Statement Node) (header : List String) :
    (∀ entries, statement.apply ⟨entries, header⟩ = some ⟨entries, header⟩) ∨
      (∀ entries, statement.apply ⟨entries, header⟩ = none) ∨
      ∃ key change, statement.topKey? header = some key ∧ Entries.ActsAt key change ∧
        ∀ entries, statement.apply ⟨entries, header⟩ =
          (change entries).map (⟨·, statement.headerAfter header⟩) := by
  cases statement with
  | nothing => exact .inl fun _ => rfl
  | entry key node =>
    refine .inr ?_
    match header, key with
    | [], [] => exact .inl fun entries => rfl
    | [], key :: rest =>
      exact .inr ⟨key, _, rfl, Entries.actsAt_insert true key rest node, fun _ => rfl⟩
    | top :: header, key =>
      exact .inr ⟨top, _, rfl, Entries.actsAt_alter _ top header, fun _ => rfl⟩
  | table key =>
    refine .inr ?_
    cases key with
    | nil => exact .inl fun _ => rfl
    | cons key rest =>
      refine .inr ⟨key, _, rfl, actsAt_begin Entries.actsAt_openTable key rest, fun entries => ?_⟩
      rw [apply, Reading.begin, List.getLast?_eq_some_getLast (List.cons_ne_nil _ _), Option.map_eq_bind]
      rfl
  | tables key =>
    refine .inr ?_
    cases key with
    | nil => exact .inl fun _ => rfl
    | cons key rest =>
      refine .inr ⟨key, _, rfl, actsAt_begin Entries.actsAt_openTables key rest, fun entries => ?_⟩
      rw [apply, Reading.begin, List.getLast?_eq_some_getLast (List.cons_ne_nil _ _), Option.map_eq_bind]
      rfl

/-- A statement leaves the entry of a key alone that it is not about. -/
theorem Statement.lookup_apply {statement : Statement Node} {reading reading' : Reading}
    (h : statement.apply reading = some reading') {key : String}
    (hkey : key ∉ statement.topKey? reading.header) :
    reading'.entries.lookup key = reading.entries.lookup key := by
  obtain ⟨entries, header⟩ := reading
  obtain hsame | hnone | ⟨top, change, htop, hacts, happly⟩ := statement.apply_acts header
  · cases (hsame entries).symm.trans h
    rfl
  · cases (hnone entries).symm.trans h
  · obtain ⟨entries', hchange, rfl⟩ := Option.map_eq_some_iff.1 ((happly entries).symm.trans h)
    exact hacts.lookup_of_ne hchange fun he => hkey (he ▸ htop)

/-- The same header and the same entries but for these keys. -/
structure Reading.Beside (names : List String) (other full : Reading) : Prop where
  header : full.header = other.header
  lookup : ∀ key ∉ names, full.entries.lookup key = other.entries.lookup key

/-- Entries of other keys do not keep a statement from being applied, and stay as they are. -/
theorem Reading.Beside.apply {names : List String} {other full other' : Reading}
    (h : Reading.Beside names other full) {statement : Statement Node}
    (hkey : ∀ key ∈ statement.topKey? other.header, key ∉ names)
    (hother : statement.apply other = some other') :
    ∃ full', statement.apply full = some full' ∧ Reading.Beside names other' full' ∧
      ∀ key ∈ names, full'.entries.lookup key = full.entries.lookup key := by
  obtain ⟨entries, header⟩ := other
  obtain ⟨entriesFull, headerFull⟩ := full
  obtain ⟨rfl : headerFull = header, hlookup⟩ := h
  obtain hsame | hnone | ⟨key, change, htop, hacts, happly⟩ := statement.apply_acts headerFull
  · cases (hsame entries).symm.trans hother
    exact ⟨_, hsame entriesFull, ⟨rfl, hlookup⟩, fun _ _ => rfl⟩
  · cases (hnone entries).symm.trans hother
  · have hnot := hkey key htop
    obtain ⟨entries', hchange, rfl⟩ := Option.map_eq_some_iff.1 ((happly entries).symm.trans hother)
    obtain ⟨entriesFull', hchangeFull, hat⟩ := hacts.congr hchange (hlookup key hnot)
    refine ⟨⟨entriesFull', _⟩, by rw [happly, hchangeFull]; rfl, ⟨rfl, fun k hk => ?_⟩,
      fun k hk => hacts.lookup_of_ne hchangeFull fun he => hnot (he ▸ hk)⟩
    by_cases he : k = key
    · rw [he, hat]
    · exact (hacts.lookup_of_ne hchangeFull he).trans
        ((hlookup k hk).trans (hacts.lookup_of_ne hchange he).symm)

end Benchtop.Toml
