import Benchtop.Settings.Basic
import Benchtop.Text.Utf8

/-!
# The settings file

Settings are kept in a TOML document with one entry for each. A library reads and writes such documents
(`Library`): missing entries keep their defaults, unknown ones do not matter, and a number that TOML cannot
hold is not written.
-/

namespace Benchtop.Settings

/-! ## Settings by their keys -/

/-- The settings, as they are declared. -/
inductive Key where
  | timeoutMs
  | abortTimeoutMs
  | pollIntervalMs
  | maxStatusPolls
  | maxTransferSize
  | termChar
  | forceReconfigure
  | localLockout
  deriving DecidableEq, Repr

namespace Key

def name : Key → String
  | timeoutMs => "timeout_ms"
  | abortTimeoutMs => "abort_timeout_ms"
  | pollIntervalMs => "poll_interval_ms"
  | maxStatusPolls => "max_status_polls"
  | maxTransferSize => "max_transfer_size"
  | termChar => "term_char"
  | forceReconfigure => "force_reconfigure"
  | localLockout => "local_lockout"

/-- All keys in the order of their declaration. -/
def all : List Key :=
  [timeoutMs, abortTimeoutMs, pollIntervalMs, maxStatusPolls, maxTransferSize, termChar,
    forceReconfigure, localLockout]

end Key

/-- The value of a setting. -/
inductive Value where
  | natural (n : Nat)
  | boolean (b : Bool)
  deriving DecidableEq, Repr

namespace Value

def text : Value → String
  | natural n => toString n
  | boolean b => if b then "true" else "false"

/-- TOML has this value: its integers have 64 bits, one of them the sign. -/
def Fits : Value → Prop
  | natural n => n < Nat.pow 2 63
  | boolean _ => True

instance : DecidablePred Fits
  | natural n => inferInstanceAs (Decidable (n < _))
  | boolean _ => inferInstanceAs (Decidable True)

end Value

/-- The value that settings have for a key. Only a term character may be missing. -/
def value? (s : Settings) : Key → Option Value
  | .timeoutMs => some (.natural s.timeoutMs.toNat)
  | .abortTimeoutMs => some (.natural s.abortTimeoutMs.toNat)
  | .pollIntervalMs => some (.natural s.pollIntervalMs.toNat)
  | .maxStatusPolls => some (.natural s.maxStatusPolls.toNat)
  | .maxTransferSize => some (.natural s.maxTransferSize.toNat)
  | .termChar => s.termChar.map fun c => .natural c.toNat
  | .forceReconfigure => some (.boolean s.forceReconfigure)
  | .localLockout => some (.boolean s.localLockout)

/-- An entry on a line of its own. -/
def line (name : String) (value : Value) : String := name ++ " = " ++ value.text ++ "\n"

/-! ## Files -/

/-- A library for TOML documents, with what is derived for it from the declaration of the settings. The entries
of a document are a map: of several under one key, the first counts. -/
structure Library where
  /-- What the entries of a document hold. -/
  Node : Type
  /-- A number or truth value in a document. -/
  node : Value → Node
  /-- The entries of a document. -/
  read? : List Char → Option (List (String × Node))
  /-- A document with these entries. -/
  write? : List (String × Value) → Option String
  /-- The entries for settings. -/
  serialize : Settings → List (String × Value)
  /-- The settings that entries tell. -/
  deserialize? : List (String × Node) → Option Settings

/-- Why a file gives no settings. -/
inductive FileError where
  /-- It is no text. -/
  | notText
  /-- It is no TOML document, or a setting in it is not right. -/
  | notSettings
  deriving DecidableEq, Repr

variable (library : Library)

/-- The settings in a file with this content. -/
def ofBytes (content : List UInt8) : Except FileError Settings :=
  match Text.decode? content with
  | none => .error .notText
  | some text =>
    match (library.read? text).bind library.deserialize? with
    | none => .error .notSettings
    | some settings => .ok settings

/-- The text of a file with these settings, if they can be written. -/
def toText? (s : Settings) : Option String := library.write? (library.serialize s)

/-- The content of a file, if there is one. -/
abbrev File := Option (List UInt8)

/-- Reads a file. One that is not there has no text. -/
def load : File → Except FileError Settings
  | none => .error .notText
  | some content => ofBytes library content

/-- Writes a file, and says whether the settings can be written. The file stays as it is if not. -/
def save (s : Settings) (file : File) : Bool × File :=
  match s.toText? library with
  | none => (false, file)
  | some text => (true, some (Text.bytesOf text))

end Benchtop.Settings
