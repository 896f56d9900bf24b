import Benchtop.Text.Digits

/-!
# Status of a class request

The first byte of the answer to a class request. `Status.ofCode` and `Status.code` are inverse
on the codes: every byte is the code of exactly the status it is read as.
-/

namespace Benchtop.Wire

inductive Status where
  | success
  /-- Still at work; ask again. -/
  | pending
  | failed
  | transferNotInProgress
  | splitNotInProgress
  | splitInProgress
  /-- Any other code. -/
  | reserved (code : UInt8)
  deriving DecidableEq, Repr

namespace Status

def ofCode (code : UInt8) : Status :=
  if code = 0x01 then success
  else if code = 0x02 then pending
  else if code = 0x80 then failed
  else if code = 0x81 then transferNotInProgress
  else if code = 0x82 then splitNotInProgress
  else if code = 0x83 then splitInProgress
  else reserved code

def code : Status → UInt8
  | success => 0x01
  | pending => 0x02
  | failed => 0x80
  | transferNotInProgress => 0x81
  | splitNotInProgress => 0x82
  | splitInProgress => 0x83
  | reserved code => code

theorem code_ofCode (c : UInt8) : (ofCode c).code = c := by
  unfold ofCode
  repeat' split
  all_goals simp_all [code]

/-- The name of the status in the protocol's tables. -/
def name : Status → String
  | success => "SUCCESS"
  | pending => "PENDING"
  | failed => "FAILED"
  | transferNotInProgress => "TRANSFER_NOT_IN_PROGRESS"
  | splitNotInProgress => "SPLIT_NOT_IN_PROGRESS"
  | splitInProgress => "SPLIT_IN_PROGRESS"
  | reserved _ => "RESERVED"

/-- Name and code together, as diagnostics show a status. -/
def describe (s : Status) : String :=
  "UsbtmcStatus(" ++ s.name ++ " 0x" ++ Text.hexByte s.code ++ ")"

end Status

end Benchtop.Wire
