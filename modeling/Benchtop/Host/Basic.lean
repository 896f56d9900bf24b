import Benchtop.Queue
import Benchtop.Usb.Device

/-!
# A USB host

What an operating system offers a program that uses USB devices: a list of devices, descriptors,
claims of interfaces, endpoints opened under a claim, and transfers. The host here is a state with
scripted replies and failures, and it keeps a log of what was asked of it.

A claim lives until the program has let go of it and of every endpoint opened under it; only then
is the interface released (`Host.settleClaim`). The calls refuse what a real host refuses: a claim
while a driver of the operating system has the interface, an endpoint that the claim's setting
lacks, a second opening of an endpoint.
-/

namespace Benchtop

open Usb

namespace Host

/-- Why a transfer failed. -/
inductive TransferError where
  /-- Also what a timeout gives. -/
  | cancelled
  | stall
  | disconnected
  | fault
  | invalidArgument
  | unknown (errno : Nat)
  deriving DecidableEq, Repr

def TransferError.text : TransferError → String
  | cancelled => "transfer was cancelled"
  | stall => "endpoint stalled"
  | disconnected => "device disconnected"
  | fault => "hardware fault or protocol violation"
  | invalidArgument => "invalid or unsupported argument"
  | unknown errno => s!"unknown (errno {errno})"

/-- What the log holds. -/
inductive Event where
  | listDevices
  | openDevice (busId : String) (address : UInt8)
  | setConfiguration (value : UInt8)
  | detachDriver (interface : UInt8)
  | attachDriver (interface : UInt8)
  | claim (interface : UInt8)
  | setAlternate (interface alternate : UInt8)
  | openEndpoint (kind : TransferKind) (direction : Direction) (address : UInt8)
  | controlIn (setup : Setup) (length : UInt16) (timeout : Duration)
  | transferOut (address : UInt8) (data : List UInt8) (timeout : Duration)
  | transferIn (address : UInt8) (length : Nat) (timeout : Duration)
  | clearHalt (address : UInt8)
  | closeEndpoint (address : UInt8)
  | release (interface : UInt8)
  deriving DecidableEq, Repr

/-- The kinds of events, under which failures are queued. -/
inductive EventKind where
  | listDevices
  | openDevice
  | setConfiguration
  | detachDriver
  | attachDriver
  | claim
  | setAlternate
  | openEndpoint
  | controlIn
  | transferOut
  | transferIn
  | clearHalt
  | closeEndpoint
  | release
  deriving DecidableEq, Repr

def Event.kind : Event → EventKind
  | listDevices => .listDevices
  | openDevice _ _ => .openDevice
  | setConfiguration _ => .setConfiguration
  | detachDriver _ => .detachDriver
  | attachDriver _ => .attachDriver
  | claim _ => .claim
  | setAlternate _ _ => .setAlternate
  | openEndpoint _ _ _ => .openEndpoint
  | controlIn _ _ _ => .controlIn
  | transferOut _ _ _ => .transferOut
  | transferIn _ _ _ => .transferIn
  | clearHalt _ => .clearHalt
  | closeEndpoint _ => .closeEndpoint
  | release _ => .release

/-- A device attached to the host. -/
structure Peripheral where
  info : DeviceInfo
  configurations : List Configuration
  /-- The value of the active configuration; 0 when there is none. -/
  active : UInt8
  /-- A driver of the operating system has the interface. -/
  driverActive : Bool := false
  /-- Queued replies to control requests, each under its request. -/
  controlQueue : List (UInt8 × Except TransferError (List UInt8)) := []
  /-- Standing replies to control requests, the latest first. -/
  controlDefaults : List (UInt8 × List UInt8) := []
  /-- Queued replies of IN endpoints, each under its address. -/
  inQueue : List (UInt8 × Except TransferError (List UInt8)) := []
  /-- Queued outcomes of OUT transfers: how many bytes were written. -/
  outQueue : List (UInt8 × Except TransferError Nat) := []

/-- A claim of an interface. -/
structure Claim where
  /-- The place of the device in the host's list. -/
  place : Nat
  interface : UInt8
  alternate : UInt8 := 0
  /-- The program has the claim itself, not only endpoints opened under it. -/
  held : Bool := true
  /-- The endpoints open under the claim. -/
  endpoints : List UInt8 := []
  deriving DecidableEq, Repr

/-- An endpoint opened under a claim, which is known by its place in the list of claims. -/
structure OpenEndpoint where
  claim : Nat
  address : UInt8
  maxPacketSize : Nat
  deriving DecidableEq, Repr

end Host

open Host

structure Host where
  peripherals : List Peripheral := []
  /-- Every claim ever made, the latest last. -/
  claims : List Claim := []
  /-- What is in store for the calls to come, each under the kind of call: a failure, or none. -/
  failures : List (EventKind × Option String) := []
  log : List Event := []

namespace Host

/-! ## Devices -/

/-- A peripheral with its first configuration active. -/
def Peripheral.plugged (info : DeviceInfo) (configurations : List Configuration) : Peripheral where
  info := info
  configurations := configurations
  active := (configurations.head?.map (·.value)).getD 0

/-- The active configuration, if it is described. -/
def Peripheral.activeConfiguration? (p : Peripheral) : Option Configuration :=
  p.configurations.find? (·.value == p.active)

/-- The setting of an interface in the active configuration. -/
def Peripheral.setting? (p : Peripheral) (interface alternate : UInt8) : Option Interface :=
  p.activeConfiguration?.bind fun c =>
    c.interfaces.find? fun i => i.number == interface && i.alternate == alternate

/-- The descriptors: within a configuration the interfaces by ascending number, those of one number
in the order given. -/
def Peripheral.descriptors (p : Peripheral) : List Configuration :=
  p.configurations.map fun c =>
    { c with interfaces := c.interfaces.mergeSort fun a b => a.number ≤ b.number }

def Peripheral.queueControl (p : Peripheral) (request : UInt8)
    (reply : Except TransferError (List UInt8)) : Peripheral :=
  { p with controlQueue := p.controlQueue ++ [(request, reply)] }

def Peripheral.setControlDefault (p : Peripheral) (request : UInt8) (data : List UInt8) :
    Peripheral :=
  { p with controlDefaults := (request, data) :: p.controlDefaults }

def Peripheral.queueIn (p : Peripheral) (address : UInt8)
    (reply : Except TransferError (List UInt8)) : Peripheral :=
  { p with inQueue := p.inQueue ++ [(address, reply)] }

def Peripheral.queueOut (p : Peripheral) (address : UInt8) (reply : Except TransferError Nat) :
    Peripheral :=
  { p with outQueue := p.outQueue ++ [(address, reply)] }

/-- Changes the device at a place. -/
def modifyAt (h : Host) (place : Nat) (f : Peripheral → Peripheral) : Host :=
  { h with peripherals := h.peripherals.modify place f }

/-- Queued replies of IN endpoints, on all devices together. -/
def queued (h : Host) : Nat := h.peripherals.foldr (fun p n => p.inQueue.length + n) 0

/-- Queues a failure. -/
def addFailure (h : Host) (kind : EventKind) (message : String) : Host :=
  { h with failures := h.failures ++ [(kind, some message)] }

/-! ## Calls -/

/-- Adds to the log. -/
def logged (h : Host) (e : Event) : Host := { h with log := h.log ++ [e] }

/-- A call of the host, which fails with a text. -/
abbrev Request := ExceptT String (StateM Host)

/-- Logs a call, and fails if a failure is in store for it. -/
def enter (e : Event) : Request Unit := fun h =>
  let h := h.logged e
  match takeFirst e.kind h.failures with
  | some (some message, rest) => (.error message, { h with failures := rest })
  | some (none, rest) => (.ok (), { h with failures := rest })
  | none => (.ok (), h)

def listDevices : Request (List DeviceInfo) := do
  enter .listDevices
  return (← get).peripherals.map (·.info)

def openDevice (info : DeviceInfo) : Request Unit := enter (.openDevice info.busId info.address)

def setConfiguration (place : Nat) (value : UInt8) : Request Unit := do
  enter (.setConfiguration value)
  modify fun h => h.modifyAt place fun p => { p with active := value }

/-- Whether a driver of the operating system has the device. -/
def hasDriver (h : Host) (place : Nat) : Bool := h.peripherals[place]?.any (·.driverActive)

def detachDriver (place : Nat) (interface : UInt8) : Request Unit := do
  enter (.detachDriver interface)
  unless (← get).hasDriver place do throw "no kernel driver attached (errno 61)"
  modify fun h => h.modifyAt place fun p => { p with driverActive := false }

def attachDriver (place : Nat) (interface : UInt8) : Request Unit := do
  enter (.attachDriver interface)
  if (← get).hasDriver place then throw "kernel driver already attached (errno 16)"
  modify fun h => h.modifyAt place fun p => { p with driverActive := true }

/-- Claims an interface, in alternate setting 0. Gives the place of the claim. -/
def claimInterface (place : Nat) (interface : UInt8) : Request Nat := do
  enter (.claim interface)
  if (← get).hasDriver place then throw "interface is busy (errno 16)"
  let count := (← get).claims.length
  modify fun h => { h with claims := h.claims ++ [({ place, interface } : Claim)] }
  return count

/-- Logs the release of a claim that nothing is held of. -/
def settleClaim (claim : Nat) (h : Host) : Host :=
  match h.claims[claim]? with
  | some c => if !c.held && c.endpoints.isEmpty then h.logged (.release c.interface) else h
  | none => h

/-- Lets go of a claim. -/
def dropClaim (claim : Nat) (h : Host) : Host :=
  settleClaim claim
    { h with claims := h.claims.modify claim fun c => { c with held := false } }

/-- Closes an endpoint. -/
def closeEndpoint (e : OpenEndpoint) (h : Host) : Host :=
  let h := h.logged (.closeEndpoint e.address)
  settleClaim e.claim
    { h with claims := h.claims.modify e.claim fun c =>
        { c with endpoints := c.endpoints.erase e.address } }

/-- Sets the alternate setting of a claimed interface. -/
def setAlternate (claim : Nat) (alternate : UInt8) : Request Unit := do
  let some c := (← get).claims[claim]? | throw "not a claim"
  enter (.setAlternate c.interface alternate)
  unless c.endpoints.isEmpty do
    throw "can't change alternate setting while endpoints are in use"
  let setting? := (← get).peripherals[c.place]?.bind fun p => p.setting? c.interface alternate
  if setting?.isNone then throw "alternate setting not found (errno 22)"
  modify fun h => { h with claims := h.claims.modify claim fun c => { c with alternate } }

/-- Opens an endpoint under a claim. -/
def openEndpoint (claim : Nat) (kind : TransferKind) (direction : Direction) (address : UInt8) :
    Request OpenEndpoint := do
  enter (.openEndpoint kind direction address)
  let h ← get
  let some c := h.claims[claim]? | throw "not a claim"
  let setting? := h.peripherals[c.place]?.bind fun p => p.setting? c.interface c.alternate
  match setting?.bind fun i => i.endpoints.find? (·.address == address) with
  | none => throw "specified endpoint does not exist on this interface"
  | some e =>
    if e.direction ≠ direction then throw "incorrect endpoint direction"
    if e.kind ≠ kind then throw "incorrect endpoint type"
    if c.endpoints.contains address then throw "endpoint already in use"
    modify fun h => { h with claims := h.claims.modify claim fun c =>
      { c with endpoints := address :: c.endpoints } }
    return ⟨claim, address, e.maxPacketSize⟩

/-- Clears the halt of an open endpoint. -/
def clearHalt (e : OpenEndpoint) : Request Unit := enter (.clearHalt e.address)

/-! ## Transfers -/

/-- A transfer, which fails with an error of its own. -/
abbrev Transfer := ExceptT TransferError (StateM Host)

/-- A control request. The reply is cut to the length asked for. -/
def controlIn (place : Nat) (setup : Setup) (length : UInt16) (timeout : Duration) :
    Transfer (List UInt8) := do
  modify fun h => h.logged (.controlIn setup length timeout)
  let some p := (← get).peripherals[place]? | throw .disconnected
  match takeFirst setup.request p.controlQueue with
  | some (reply, rest) =>
    modify fun h => h.modifyAt place fun p => { p with controlQueue := rest }
    return (← MonadExcept.ofExcept reply).take length.toNat
  | none =>
    match p.controlDefaults.lookup setup.request with
    | some data => return data.take length.toNat
    | none => throw .cancelled

/-- The device of a claim. -/
def placeOf (h : Host) (claim : Nat) : Nat := ((h.claims[claim]?).map (·.place)).getD 0

/-- A transfer to an OUT endpoint. Gives how many bytes were written. -/
def transferOut (e : OpenEndpoint) (data : List UInt8) (timeout : Duration) : Transfer Nat := do
  modify fun h => h.logged (.transferOut e.address data timeout)
  let place := (← get).placeOf e.claim
  let some p := (← get).peripherals[place]? | throw .disconnected
  match takeFirst e.address p.outQueue with
  | some (reply, rest) =>
    modify fun h => h.modifyAt place fun p => { p with outQueue := rest }
    MonadExcept.ofExcept reply
  | none => return data.length

/-- Takes the next reply of an IN endpoint from its queue. -/
def takeIn (h : Host) (place : Nat) (address : UInt8) :
    Option (Except TransferError (List UInt8) × Host) := do
  let p ← h.peripherals[place]?
  let (reply, rest) ← takeFirst address p.inQueue
  return (reply, h.modifyAt place fun p => { p with inQueue := rest })

/-- A transfer from an IN endpoint, of a whole number of packets. A reply that is longer than that
is lost. -/
def transferIn (e : OpenEndpoint) (length : Nat) (timeout : Duration) : Transfer (List UInt8) :=
  fun h =>
    let h := h.logged (.transferIn e.address length timeout)
    if length = 0 ∨ length % e.maxPacketSize ≠ 0 then (.error .invalidArgument, h)
    else
      match h.takeIn (h.placeOf e.claim) e.address with
      | none => (.error .cancelled, h)
      | some (.error e, h) => (.error e, h)
      | some (.ok data, h) => (if data.length > length then .error .fault else .ok data, h)

end Host

end Benchtop
