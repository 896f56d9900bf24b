import Benchtop.Link.Recovery
import Benchtop.Wire.Block
import Benchtop.Wire.Envelope

/-!
# Messages

Writing and reading of whole messages over the bulk endpoints. A long message is written in
several envelopes, the last of them marked. A message is read by asking for data until the device
marks the end; the data of one envelope may arrive in any number of transfers.

Instruments of the block profile are never sent a split message, and only the first transfer of
their answer has an envelope, whose size does not hold for block data: the block's own prefix says
how much follows.
-/

namespace Benchtop

open Usb Wire

variable {σ : Type}

namespace Link

/-! ## Transfers -/

/-- One bulk OUT transfer; one that times out is aborted. -/
def send (dev : Device σ) (tag : UInt8) (bytes : List UInt8) : Exchange σ Unit := do
  let link := (← get).link
  match ← attempt dev (.bulkOut link.endpoints.bulkOut bytes link.timing.timeout) with
  | .ok _ => return
  | .error e =>
    if e.isTimeout then abortOut dev tag
    throw (.bus e)

/-- One bulk IN transfer, with room for an envelope and its padding; one that times out is
aborted. -/
def receive (dev : Device σ) (tag : UInt8) : Exchange σ (List UInt8) := do
  let link := (← get).link
  let maxLength := link.maxTransferSize.toNat + headerSize + 3
  match ← attempt dev (.bulkIn link.endpoints.bulkIn maxLength link.timing.timeout) with
  | .ok data => return data
  | .error e =>
    if e.isTimeout then abortIn dev tag
    throw (.bus e)

/-! ## Writing -/

/-- The pieces of `size` bytes of some data, the last one perhaps shorter. Data that fit, and no
data, are one piece. -/
def pieces (size : Nat) (data : List UInt8) : List (List UInt8) :=
  if _ : size = 0 ∨ data.length ≤ size then [data]
  else data.take size :: pieces size (data.drop size)
termination_by data.length
decreasing_by simp only [List.length_drop]; omega

/-- Sends one piece of a message. -/
def sendPiece (dev : Device σ) (piece : List UInt8) (isLast : Bool) : Exchange σ Unit := do
  let tag ← nextTag
  send dev tag ((Envelope.mk .dataOut tag (UInt32.ofNat piece.length) isLast none).frame piece)

/-- Sends the pieces of a message in order. -/
def sendPieces (dev : Device σ) : List (List UInt8) → Exchange σ Unit
  | [] => return
  | [last] => sendPiece dev last true
  | piece :: rest => do
    sendPiece dev piece false
    sendPieces dev rest

/-- Writes a message. -/
def writeMessage (dev : Device σ) (data : List UInt8) : Exchange σ Unit := do
  let link := (← get).link
  sendPieces dev
    (if link.profile.splitsMessages then pieces link.maxTransferSize.toNat data else [data])

/-! ## Reading -/

/-- Reads on until `need` bytes are there. -/
def readAll (dev : Device σ) (tag : UInt8) (need : Nat) (data : List UInt8) :
    Exchange σ (List UInt8) := do
  if _ : need ≤ data.length then return data
  else
    let more ← receive dev tag
    if _ : more = [] then throw (.badAnswer (.endedEarly data.length need))
    else readAll dev tag need (data ++ more)
termination_by need - data.length
decreasing_by
  -- A transfer that is not empty brings the end nearer.
  have := List.length_pos_iff.2 ‹more ≠ []›
  simp only [List.length_append]
  omega

/-- The first transfer of an answer: its envelope, the bytes after that, and the tag of the
request. -/
structure FirstTransfer where
  envelope : Envelope
  body : List UInt8
  tag : UInt8
  deriving DecidableEq, Repr

/-- Asks for data and reads the first transfer of the answer. -/
def requestData (dev : Device σ) : Exchange σ FirstTransfer := do
  let tag ← nextTag
  let link := (← get).link
  let termChar := if link.capabilities.termChar then link.termChar else none
  send dev tag (Envelope.request tag link.maxTransferSize termChar).bytes
  let bytes ← receive dev tag
  match Envelope.parse bytes .dataIn with
  | .error e => throw (.badEnvelope e)
  | .ok envelope =>
    if envelope.tag ≠ tag then throw (.tagMismatch tag envelope.tag)
    return ⟨envelope, bytes.drop headerSize, tag⟩

/-- Reads the data of one envelope, and whether it is the last of its message. -/
def readEnvelope (dev : Device σ) : Exchange σ (List UInt8 × Bool) := do
  let first ← requestData dev
  let size := first.envelope.size.toNat
  let data ← readAll dev first.tag size first.body
  return (data.take size, first.envelope.endOfMessage)

end Link

open Link in
/-- Reads the rest of a message of which `message` has been read. There is no outcome if the device
never ends the message. -/
def Connection.readEnvelopes? (dev : Device σ) (message : List UInt8) (c : Connection σ) :
    Option (Except Failure (List UInt8) × Connection σ) :=
  match readEnvelope dev c with
  | (.error e, c) => some (.error e, c)
  | (.ok (data, true), c) => some (.ok (message ++ data), c)
  | (.ok (data, false), c) => c |>.readEnvelopes? dev (message ++ data)
partial_fixpoint

namespace Link

/-- Reads on to the end of a message of the block profile that begins with `data`; it has `size`
bytes unless a block's prefix says otherwise. -/
def readBlock (dev : Device σ) (tag : UInt8) (data : List UInt8) (size : Nat) :
    Exchange σ (List UInt8) := do
  match BlockHeader.parse? data with
  | none => return (← readAll dev tag size data).take size
  | some block =>
    let total := if block.indefinite then size else block.prefixSize + block.length
    return ((← readAll dev tag total data).take total).drop block.prefixSize

/-- Reads a message of the block profile. A pending marker gives way to the transfer after it. -/
def readBlockMessage (dev : Device σ) : Exchange σ (List UInt8) := do
  let first ← requestData dev
  let size := first.envelope.size.toNat
  let body := first.body.take size
  if isPendingMarker body then
    let data ← receive dev first.tag
    readBlock dev first.tag data data.length
  else readBlock dev first.tag body size

/-- Reads a message. Reading one without end does not come back; it counts as a failure of its own
that leaves all as it was. -/
def readMessage (dev : Device σ) : Exchange σ (List UInt8) := fun c =>
  if c.link.profile.readsBlocks then readBlockMessage dev c
  else (c.readEnvelopes? dev []).getD (.error .oversupplied, c)

end Link

end Benchtop
