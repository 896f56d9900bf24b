import Benchtop.Host.Basic

/-!
# Devices on a host

An opened device of the host, with the claim of an interface and the endpoints in use. An endpoint
is opened when it is first used and kept; another address in its place, or a release, closes it.
Without a claim there are no endpoints, so nothing is transferred.
-/

namespace Benchtop

open Usb

namespace Host

/-- An opened device. -/
structure Opened where
  /-- The place of the device in the host's list. -/
  place : Nat
  claim : Option Nat := none
  bulkOut : Option OpenEndpoint := none
  bulkIn : Option OpenEndpoint := none
  interruptIn : Option OpenEndpoint := none
  deriving DecidableEq, Repr

/-- The three endpoints that a device keeps open. -/
inductive Slot where
  | bulkOut
  | bulkIn
  | interruptIn
  deriving DecidableEq, Repr

namespace Slot

def kind : Slot → TransferKind
  | bulkOut => .bulk
  | bulkIn => .bulk
  | interruptIn => .interrupt

def direction : Slot → Direction
  | bulkOut => .output
  | bulkIn => .input
  | interruptIn => .input

/-- The endpoint in a slot. -/
def get : Slot → Opened → Option OpenEndpoint
  | bulkOut, o => o.bulkOut
  | bulkIn, o => o.bulkIn
  | interruptIn, o => o.interruptIn

/-- Puts an endpoint into a slot, or empties it. -/
def set : Slot → Option OpenEndpoint → Opened → Opened
  | bulkOut, e, o => { o with bulkOut := e }
  | bulkIn, e, o => { o with bulkIn := e }
  | interruptIn, e, o => { o with interruptIn := e }

end Slot

/-- An opened device and the host. -/
structure Seat where
  opened : Opened
  host : Host

/-- An action on an opened device. -/
abbrev OnDevice := ExceptT BusError (StateM Seat)

/-! ## Calls of the host -/

/-- A call of the host; a failure becomes the one that `error` makes of its text. -/
def ask {α : Type} (error : String → BusError) (request : Request α) : OnDevice α := fun s =>
  let (answer, host) := request s.host
  (answer.mapError error, { s with host })

/-- What a failed transfer is on the bus. Endpoint 0 is the one of control requests. -/
def busError (endpoint : UInt8) (timeout : Duration) : TransferError → BusError
  | .cancelled => .ofTimeout timeout
  | .stall => .stalled endpoint
  | .disconnected => .disconnected
  | other => .transferFailed other.text

/-- A transfer on the host. -/
def carry {α : Type} (endpoint : UInt8) (timeout : Duration) (transfer : Transfer α) : OnDevice α :=
  fun s =>
    let (answer, host) := transfer s.host
    (answer.mapError (busError endpoint timeout), { s with host })

/-! ## Claims and endpoints -/

/-- Empties a slot. -/
def closeSlot (slot : Slot) (s : Seat) : Seat :=
  match slot.get s.opened with
  | none => s
  | some e => ⟨slot.set none s.opened, closeEndpoint e s.host⟩

/-- Lets go of the claim. -/
def letGoOfClaim (s : Seat) : Seat :=
  match s.opened.claim with
  | none => s
  | some claim => ⟨{ s.opened with claim := none }, dropClaim claim s.host⟩

/-- Closes the endpoints, then lets go of the claim. -/
def releaseAll (s : Seat) : Seat :=
  letGoOfClaim (closeSlot .interruptIn (closeSlot .bulkIn (closeSlot .bulkOut s)))

/-- Lets go of an opened device: of the claim, then of the endpoints. -/
def letGoOfDevice (s : Seat) : Seat :=
  closeSlot .interruptIn (closeSlot .bulkIn (closeSlot .bulkOut (letGoOfClaim s)))

/-- Claims an interface in an alternate setting. A new claim takes the place of an old one only when
it stands. -/
def claim (interface alternate : UInt8) : OnDevice Unit := do
  let failed := BusError.claimFailed interface
  let claim ← ask failed (claimInterface (← get).opened.place interface)
  if alternate ≠ 0 then
    try ask failed (setAlternate claim alternate)
    catch e =>
      modify fun s => { s with host := dropClaim claim s.host }
      throw e
  modify fun s =>
    let s := letGoOfClaim s
    { s with opened.claim := some claim }

/-- The endpoint of an address in a slot: the one that is open there, or else a new one under the
present claim. -/
def endpointFor (slot : Slot) (address : UInt8) : OnDevice OpenEndpoint := do
  let s ← get
  match (slot.get s.opened).filter (·.address == address) with
  | some e => return e
  | none =>
    match s.opened.claim with
    | none => throw .notClaimed
    | some claim =>
      let e ← ask .transferFailed (openEndpoint claim slot.kind slot.direction address)
      modify fun s =>
        let s := closeSlot slot s
        { s with opened := slot.set (some e) s.opened }
      return e

/-- A length as a whole number of packets, at least one. -/
def wholePackets (length packetSize : Nat) : Nat :=
  let packet := max packetSize 1
  (max length 1 + packet - 1) / packet * packet

/-- Reads one transfer of an IN endpoint. -/
def readFrom (slot : Slot) (address : UInt8) (maxLength : Nat) (timeout : Duration) :
    OnDevice (List UInt8) := do
  let e ← endpointFor slot address
  carry address timeout (transferIn e (wholePackets maxLength e.maxPacketSize) timeout)

/-! ## Calls of the device -/

/-- What a call does. -/
def perform : (c : Call) → OnDevice c.Answer
  | .setConfiguration value => do
    ask .transferFailed (setConfiguration (← get).opened.place value)
  | .detachDriver interface => do
    try
      ask .transferFailed (detachDriver (← get).opened.place interface)
      pure true
    catch _ => pure false
  | .attachDriver interface => do
    ask .transferFailed (attachDriver (← get).opened.place interface)
  | .claim interface alternate => claim interface alternate
  | .release _ => modify releaseAll
  | .controlIn setup length timeout => do
    let s ← get
    if s.opened.claim.isNone then throw .notClaimed
    carry 0 timeout (controlIn s.opened.place setup length timeout)
  | .bulkOut endpoint data timeout => do
    let e ← endpointFor .bulkOut endpoint
    carry endpoint timeout (transferOut e data timeout)
  | .bulkIn endpoint maxLength timeout => readFrom .bulkIn endpoint maxLength timeout
  | .interruptIn endpoint maxLength timeout => readFrom .interruptIn endpoint maxLength timeout
  | .clearHalt endpoint => do
    let slot : Slot := if endpoint &&& 0x80 = 0 then .bulkOut else .bulkIn
    let e ← endpointFor slot endpoint
    ask .transferFailed (clearHalt e)

end Host

end Benchtop
