import Benchtop.Settings.File
import Benchtop.Toml.Reader

/-!
# Settings in TOML documents

The library that the programs use. Reading takes any TOML document: a known entry with a value of another
kind or out of range makes the document useless. Writing gives one line for each entry, in the form
`key = value`.
-/

namespace Benchtop.Settings

open Toml

/-! ## Reading -/

/-- An entry that holds a number from 0 to `limit`. -/
def natural? (limit : Nat) : Node → Option Nat
  | .integer n => if 0 ≤ n ∧ n ≤ limit then some n.toNat else none
  | _ => none

def boolean? : Node → Option Bool
  | .boolean b => some b
  | _ => none

/-- The value of an entry, or `default` if there is none. -/
def entry {α : Type} (entries : Entries) (key : Key) (value? : Node → Option α) (default : α) :
    Option α :=
  match entries.lookup key.name with
  | none => some default
  | some node => value? node

/-- The settings in the entries of a document. -/
def ofEntries? (entries : Entries) : Option Settings := do
  let d : Settings := {}
  let word64 (key : Key) (default : UInt64) : Option UInt64 :=
    entry entries key (fun n => (natural? (Int64.size / 2 - 1) n).map UInt64.ofNat) default
  let word32 (key : Key) (default : UInt32) : Option UInt32 :=
    entry entries key (fun n => (natural? (UInt32.size - 1) n).map UInt32.ofNat) default
  return {
    timeoutMs := ← word64 .timeoutMs d.timeoutMs
    abortTimeoutMs := ← word64 .abortTimeoutMs d.abortTimeoutMs
    pollIntervalMs := ← word64 .pollIntervalMs d.pollIntervalMs
    maxStatusPolls := ← word32 .maxStatusPolls d.maxStatusPolls
    maxTransferSize := ← word32 .maxTransferSize d.maxTransferSize
    termChar := ← entry entries .termChar
      (fun n => (natural? 255 n).map fun c => some (UInt8.ofNat c)) d.termChar
    forceReconfigure := ← entry entries .forceReconfigure boolean? d.forceReconfigure
    localLockout := ← entry entries .localLockout boolean? d.localLockout }

/-! ## Writing -/

/-- The lines of entries, unless TOML does not have a value. -/
def lines? (entries : List (String × Value)) : Option String :=
  if ∀ entry ∈ entries, entry.2.Fits then
    some (String.join (entries.map fun entry => line entry.1 entry.2))
  else none

/-! ## The library -/

/-- A number or truth value in a document. -/
def Value.node : Value → Node
  | natural n => .integer n
  | boolean b => .boolean b

def Library.toml : Library where
  Node := Toml.Node
  node := Value.node
  read? := Toml.read?
  write? := lines?
  serialize s := Key.all.filterMap fun key => (s.value? key).map fun value => (key.name, value)
  deserialize? := ofEntries?

end Benchtop.Settings
