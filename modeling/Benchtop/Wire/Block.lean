/-!
# Arbitrary blocks

The prefix of an IEEE 488.2 block: `#`, a digit `n`, and `n` digits that give the payload's
length; or `#0`, after which the payload runs to the end of the message. A block that announces
nothing and holds nothing is a *pending marker*: the device sends it while the real block is not
ready.
-/

namespace Benchtop.Wire

/-- A block's prefix. -/
structure BlockHeader where
  /-- Bytes of the prefix. -/
  prefixSize : Nat
  /-- The announced length of the payload, 0 for an indefinite block. -/
  length : Nat
  /-- The payload runs to the end of the message. -/
  indefinite : Bool
  deriving DecidableEq, Repr

/-- The value of an ASCII digit. -/
def digitValue? (b : UInt8) : Option Nat :=
  if 48 ≤ b ∧ b ≤ 57 then some (b.toNat - 48) else none

/-- The number that ASCII digits write after a value `acc` already read. -/
def decimalValue? : (acc : Nat) → List UInt8 → Option Nat
  | acc, [] => some acc
  | acc, b :: rest => (digitValue? b).bind fun d => decimalValue? (acc * 10 + d) rest

/-- The prefix at the start of `data`, if it is complete and well formed. -/
def BlockHeader.parse? : List UInt8 → Option BlockHeader
  | 35 :: digit :: rest =>
    match digitValue? digit with
    | none => none
    | some 0 => some ⟨2, 0, true⟩
    | some n =>
      if n ≤ rest.length then
        (decimalValue? 0 (rest.take n)).map fun length => ⟨2 + n, length, false⟩
      else none
  | _ => none

/-- Whether `data` is a zero-length block and nothing else: `#0`, `#00`, or `#` and a digit
`n` with `n` zeros. -/
def isPendingMarker (data : List UInt8) : Bool :=
  match BlockHeader.parse? data with
  | none => false
  | some header =>
    let rest := data.drop header.prefixSize
    if header.indefinite then rest.isEmpty || rest == [48]
    else header.length == 0 && rest.isEmpty

end Benchtop.Wire
