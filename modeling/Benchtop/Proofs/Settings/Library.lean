import Benchtop.Proofs.Toml.Documents
import Benchtop.Settings.Toml

/-!
# What settings ask of a TOML library

Settings are kept as integers and truth values outside all tables. Of a library for TOML documents this is
asked (`Library.Lawful`): it reads the documents of a dialect as the entries that they define, writes such
entries one to a line if their integers have 64 bits, and what is derived for it keeps the settings under
their names, skips a missing term character, takes the default for a missing entry and passes over unknown
ones.

Main statement: the library that the programs use is lawful (`lawful_toml`).
-/

namespace Benchtop.Settings

open Toml

namespace Key

theorem mem_all (key : Key) : key ∈ all := by cases key <;> decide

theorem name_injective {key key' : Key} (h : key.name = key'.name) : key = key' := by
  revert h
  cases key <;> cases key' <;> decide

theorem isBareName (key : Key) : IsBareName key.name := by cases key <;> decide

end Key

/-- Each setting has the value that entries hold under its name, or they hold none and it is the default. -/
def Tells {ν : Type} (node : Value → ν) (entries : List (String × ν)) (s : Settings) : Prop :=
  ∀ key : Key, (entries.lookup key.name = none ∧ s.value? key = ({} : Settings).value? key) ∨
    ∃ value, s.value? key = some value ∧ value.Fits ∧ entries.lookup key.name = some (node value)

/-- What the settings rely on in a library. -/
structure Library.Lawful (library : Library) (dialect : Dialect library.Node) : Prop
    extends dialect.Lawful where
  /-- A bare key and an integer of 64 bits or a truth value state an entry. -/
  statement?_line {name : String} (hname : IsBareName name) {value : Value} (hvalue : value.Fits)
    (rest : List Char) :
    dialect.statement? ((line name value).toList ++ rest) =
      some (.entry [name] (library.node value), rest)
  /-- A document is read as what its statements define. -/
  read?_eq {statements : List (Statement library.Node)} {text : List Char}
    (h : dialect.Document statements text) : library.read? text = dialect.define? statements
  /-- Entries with different bare keys are written one to a line. -/
  write?_eq {entries : List (String × Value)} (hnames : (entries.map (·.1)).Nodup)
    (h : ∀ entry ∈ entries, IsBareName entry.1 ∧ entry.2.Fits) :
    library.write? entries = some (String.join (entries.map fun entry => line entry.1 entry.2))
  /-- An integer that does not have 64 bits is not written. -/
  write?_eq_none {entries : List (String × Value)} (h : ∃ entry ∈ entries, ¬ entry.2.Fits) :
    library.write? entries = none
  /-- Settings are kept under their names, in the order of their declaration. Those without a value are
  skipped. -/
  serialize_eq (s : Settings) :
    library.serialize s = Key.all.filterMap fun key => (s.value? key).map fun value => (key.name, value)
  /-- Missing entries keep their defaults, and unknown ones do not matter. -/
  deserialize?_eq {entries : List (String × library.Node)} {s : Settings}
    (h : Tells library.node entries s) : library.deserialize? entries = some s

/-! ## Lines of numbers and words -/

/-- A value is printed as a number or word that is read as the value. -/
theorem Value.Fits.scalar?_text {value : Value} (h : value.Fits) :
    value.text.toList ≠ [] ∧ (∀ c ∈ value.text.toList, isScalarChar c = true) ∧
      Toml.scalar? value.text.toList = some value.node := by
  cases value with
  | natural n =>
    have htext : (toString n).toList = Nat.toDigits 10 n := Nat.toList_repr
    rw [Value.text, htext]
    exact ⟨Nat.toDigits_ne_nil, isScalarChar_of_isDigit fun c hc =>
      Nat.isDigit_of_mem_toDigits (by decide) (by decide) hc, scalar?_toDigits (Nat.le_sub_one_of_lt h)⟩
  | boolean b => cases b <;> exact ⟨by decide, List.all_eq_true.1 (by decide), rfl⟩

theorem statement?_line {name : String} (hname : IsBareName name) {value : Value} (hvalue : value.Fits)
    (rest : List Char) :
    dialect.statement? ((line name value).toList ++ rest) = some (.entry [name] value.node, rest) := by
  have hline : (line name value).toList ++ rest =
      name.toList ++ ' ' :: '=' :: ' ' :: (value.text.toList ++ '\n' :: rest) := by
    simp [line]
  obtain ⟨hne, hall, hnode⟩ := hvalue.scalar?_text
  change Statement.read? (skipSpace _) = _
  rw [hline, skipSpace_bare hname]
  exact Statement.read?_entry hname hne hall hnode rest

/-! ## Settings in entries -/

theorem natural?_node {n limit : Nat} (h : n ≤ limit) :
    natural? limit (Value.natural n).node = some n := by
  simp [natural?, Value.node, h]

section

variable {s : Settings} {entries : Entries} (h : Tells Value.node entries s)
include h

theorem entry_eq (key : Key) {α : Type} {read? : Node → Option α} {default a : α}
    (hdefault : s.value? key = ({} : Settings).value? key → default = a)
    (hread : ∀ value : Value, s.value? key = some value → value.Fits → read? value.node = some a) :
    entry entries key read? default = some a := by
  rw [entry]
  obtain ⟨hmissing, hsame⟩ | ⟨value, hvalue, hfits, hlookup⟩ := h key
  · rw [hmissing, hdefault hsame]
  · rw [hlookup]
    exact hread value hvalue hfits

theorem entry_word64 (key : Key) {default n : UInt64}
    (hdefault : ({} : Settings).value? key = some (.natural default.toNat))
    (hn : s.value? key = some (.natural n.toNat)) :
    entry entries key (fun node => (natural? (Int64.size / 2 - 1) node).map UInt64.ofNat) default =
      some n := by
  refine entry_eq h key (fun hsame => ?_) fun value hvalue hfits => ?_
  · rw [hn, hdefault] at hsame
    simpa [UInt64.toNat_inj] using hsame.symm
  · cases hn.symm.trans hvalue
    have hle : n.toNat ≤ Int64.size / 2 - 1 := Nat.le_sub_one_of_lt hfits
    rw [natural?_node hle]
    simp

theorem entry_word32 (key : Key) {default n : UInt32}
    (hdefault : ({} : Settings).value? key = some (.natural default.toNat))
    (hn : s.value? key = some (.natural n.toNat)) :
    entry entries key (fun node => (natural? (UInt32.size - 1) node).map UInt32.ofNat) default =
      some n := by
  refine entry_eq h key (fun hsame => ?_) fun value hvalue _ => ?_
  · rw [hn, hdefault] at hsame
    simpa [UInt32.toNat_inj] using hsame.symm
  · cases hn.symm.trans hvalue
    rw [natural?_node (Nat.le_sub_one_of_lt n.toNat_lt_size)]
    simp

theorem entry_termChar :
    entry entries .termChar (fun node => (natural? 255 node).map fun c => some (UInt8.ofNat c)) none =
      some s.termChar := by
  refine entry_eq h .termChar (fun hsame => ?_) fun value hvalue _ => ?_
  · exact (Option.map_eq_none_iff.1 hsame).symm
  · obtain ⟨c, hc, rfl⟩ := Option.map_eq_some_iff.1 hvalue
    rw [natural?_node (Nat.le_of_lt_succ c.toNat_lt), hc]
    simp

theorem entry_boolean (key : Key) {default b : Bool}
    (hdefault : ({} : Settings).value? key = some (.boolean default))
    (hb : s.value? key = some (.boolean b)) : entry entries key boolean? default = some b := by
  refine entry_eq h key (fun hsame => ?_) fun value hvalue _ => ?_
  · rw [hb, hdefault] at hsame
    simpa using hsame.symm
  · cases hb.symm.trans hvalue
    rfl

theorem ofEntries?_eq : ofEntries? entries = some s := by
  rw [ofEntries?]
  simp only [entry_word64 h .timeoutMs rfl rfl, entry_word64 h .abortTimeoutMs rfl rfl,
    entry_word64 h .pollIntervalMs rfl rfl, entry_word32 h .maxStatusPolls rfl rfl,
    entry_word32 h .maxTransferSize rfl rfl, entry_termChar h,
    entry_boolean h .forceReconfigure rfl rfl, entry_boolean h .localLockout rfl rfl]
  rfl

end

/-! ## The library -/

theorem lawful_toml : Library.toml.Lawful dialect where
  toLawful := lawful_dialect
  statement?_line := statement?_line
  read?_eq := read?_of_document
  write?_eq _ h := if_pos fun entry hentry => (h entry hentry).2
  write?_eq_none h := if_neg fun hall => h.elim fun entry hentry => hentry.2 (hall entry hentry.1)
  serialize_eq _ := rfl
  deserialize?_eq := ofEntries?_eq

end Benchtop.Settings
