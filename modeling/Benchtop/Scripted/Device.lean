import Benchtop.Queue
import Benchtop.Usb.Device
import Benchtop.Wire.Envelope
import Benchtop.Wire.Request

/-!
# Scripted devices

A device that plays a script: queues of answers to control requests and to transfers, and standing
answers to control requests for when the queue is empty. It keeps a log of the calls made of it.

A transfer needs a claimed interface, and a claim fails while the operating system's driver has the
interface. Calls that would always succeed can be given a fault: the call takes effect, and then
reports the fault.
-/

namespace Benchtop

open Usb Wire

/-! ## Descriptors and answers to start from -/

namespace Scripted

/-- An instrument interface with bulk OUT endpoint 02, bulk IN endpoint 81, and perhaps interrupt
IN endpoint 83. -/
def instrumentInterface (number protocol : UInt8) (interrupt : Bool) : Interface where
  number := number
  alternate := 0
  classCode := instrumentClass
  subclass := instrumentSubclass
  protocol := protocol
  endpoints :=
    [⟨0x02, .bulk, .output, 512⟩, ⟨0x81, .bulk, .input, 512⟩] ++
      if interrupt then [⟨0x83, .interrupt, .input, 8⟩] else []

/-- An answer to the capability query: version 1.00 of class and subclass, and four bytes of
capabilities. -/
def capabilitiesAnswer (interface device usb488Interface usb488Device : UInt8) : List UInt8 :=
  [1, 0, 0, 1, interface, device, 0, 0, 0, 0, 0, 0, 0, 1, usb488Interface, usb488Device] ++
    List.replicate 8 0

/-- A queued bulk IN transfer. -/
inductive BulkReply where
  /-- These bytes. -/
  | raw (data : List UInt8)
  /-- A data envelope with the tag of the latest request, and this payload. -/
  | response (payload : List UInt8) (endOfMessage : Bool)
  | failure (error : BusError)
  deriving DecidableEq, Repr

/-- The calls that can be given a fault. -/
inductive Faulty where
  | setConfiguration
  | detachDriver
  | attachDriver
  | release
  | clearHalt
  deriving DecidableEq, Repr

def Faulty.ofCall : Call → Option Faulty
  | .setConfiguration _ => some setConfiguration
  | .detachDriver _ => some detachDriver
  | .attachDriver _ => some attachDriver
  | .release _ => some release
  | .clearHalt _ => some clearHalt
  | _ => none

end Scripted

open Scripted

structure ScriptedDevice where
  configurations : List Configuration
  active : Option UInt8
  /-- The operating system's driver has the interface. -/
  driverActive : Bool := false
  claimed : Option UInt8 := none
  /-- What the next claim fails with. -/
  claimError : Option BusError := none
  /-- Queued answers to control requests, each under its request. -/
  controlQueue : List (UInt8 × Except BusError (List UInt8)) := []
  /-- Standing answers to control requests, the latest first. -/
  controlDefaults : List (UInt8 × List UInt8) := []
  bulkOutErrors : List BusError := []
  bulkInQueue : List BulkReply := []
  interruptQueue : List (Except BusError (List UInt8)) := []
  /-- The tag of the latest request for data. -/
  requestTag : UInt8 := 0
  faults : List (Faulty × BusError) := []
  log : List Call := []

namespace ScriptedDevice

/-! ## Making and scripting a device -/

/-- A device with these descriptors, the first configuration active, and no capabilities. -/
def ofConfigurations (configurations : List Configuration) : ScriptedDevice where
  configurations := configurations
  active := configurations.head?.map (·.value)
  controlDefaults := [(Request.getCapabilities.code, capabilitiesAnswer 0 0 0 0)]

/-- An instrument with one interface. -/
def withInterface (protocol : UInt8) (interrupt : Bool) : ScriptedDevice :=
  ofConfigurations [⟨1, [instrumentInterface 0 protocol interrupt]⟩]

/-- A plain instrument. -/
def plain : ScriptedDevice := withInterface 0 false

/-- An instrument of the USB488 subclass. -/
def usb488 (interrupt : Bool) : ScriptedDevice := withInterface usb488Protocol interrupt

def queueControl (d : ScriptedDevice) (request : UInt8) (answer : Except BusError (List UInt8)) :
    ScriptedDevice :=
  { d with controlQueue := d.controlQueue ++ [(request, answer)] }

def setControlDefault (d : ScriptedDevice) (request : UInt8) (answer : List UInt8) :
    ScriptedDevice :=
  { d with controlDefaults := (request, answer) :: d.controlDefaults }

def queueBulkIn (d : ScriptedDevice) (reply : BulkReply) : ScriptedDevice :=
  { d with bulkInQueue := d.bulkInQueue ++ [reply] }

def queueBulkOutError (d : ScriptedDevice) (error : BusError) : ScriptedDevice :=
  { d with bulkOutErrors := d.bulkOutErrors ++ [error] }

def queueInterrupt (d : ScriptedDevice) (answer : Except BusError (List UInt8)) : ScriptedDevice :=
  { d with interruptQueue := d.interruptQueue ++ [answer] }

def addFault (d : ScriptedDevice) (call : Faulty) (error : BusError) : ScriptedDevice :=
  { d with faults := d.faults ++ [(call, error)] }

/-! ## Calls -/

/-- Adds a call to the log. -/
def logged (d : ScriptedDevice) (c : Call) : ScriptedDevice := { d with log := d.log ++ [c] }

/-- The answer to a control request. -/
def answerControl (d : ScriptedDevice) (request : UInt8) (timeout : Duration) :
    Except BusError (List UInt8) × ScriptedDevice :=
  match takeFirst request d.controlQueue with
  | some (answer, rest) => (answer, { d with controlQueue := rest })
  | none =>
    match d.controlDefaults.lookup request with
    | some answer => (.ok answer, d)
    | none => (.error (.ofTimeout timeout), d)

/-- Takes bulk OUT data, and the tag if they are a request for data. -/
def acceptBulkOut (d : ScriptedDevice) (data : List UInt8) : Except BusError Nat × ScriptedDevice :=
  if d.claimed.isNone then (.error .notClaimed, d)
  else
    match d.bulkOutErrors with
    | e :: rest => (.error e, { d with bulkOutErrors := rest })
    | [] =>
      let d := match data with
        | id :: tag :: _ =>
          if headerSize ≤ data.length ∧ id = MessageKind.requestIn.id then
            { d with requestTag := tag }
          else d
        | _ => d
      (.ok data.length, d)

/-- The next bulk IN transfer. -/
def nextBulkIn (d : ScriptedDevice) (timeout : Duration) :
    Except BusError (List UInt8) × ScriptedDevice :=
  if d.claimed.isNone then (.error .notClaimed, d)
  else
    match d.bulkInQueue with
    | [] => (.error (.ofTimeout timeout), d)
    | reply :: rest =>
      let d := { d with bulkInQueue := rest }
      match reply with
      | .raw data => (.ok data, d)
      | .response payload endOfMessage =>
        let envelope : Envelope :=
          ⟨.dataIn, d.requestTag, UInt32.ofNat payload.length, endOfMessage, none⟩
        (.ok (envelope.frame payload), d)
      | .failure e => (.error e, d)

/-- The next interrupt transfer. -/
def nextInterrupt (d : ScriptedDevice) (timeout : Duration) :
    Except BusError (List UInt8) × ScriptedDevice :=
  if d.claimed.isNone then (.error .notClaimed, d)
  else
    match d.interruptQueue with
    | [] => (.error (.ofTimeout timeout), d)
    | answer :: rest => (answer, { d with interruptQueue := rest })

/-- Claims an interface. -/
def acceptClaim (d : ScriptedDevice) (interface : UInt8) : Except BusError Unit × ScriptedDevice :=
  match d.claimError with
  | some e => (.error e, { d with claimError := none })
  | none =>
    if d.driverActive then (.error (.claimFailed interface "kernel driver active"), d)
    else (.ok (), { d with claimed := some interface })

/-- What the device does in a call, faults apart. Only the detachment of a driver that is not there
leaves no trace in the log. -/
def respond : (c : Call) → ScriptedDevice → Except BusError c.Answer × ScriptedDevice
  | .setConfiguration value, d =>
    (.ok (), { d.logged (.setConfiguration value) with active := some value })
  | .detachDriver interface, d =>
    if d.driverActive then
      (.ok true, { d.logged (.detachDriver interface) with driverActive := false })
    else (.ok false, d)
  | .attachDriver interface, d =>
    (.ok (), { d.logged (.attachDriver interface) with driverActive := true })
  | .claim interface alternate, d => (d.logged (.claim interface alternate)).acceptClaim interface
  | .release interface, d => (.ok (), { d.logged (.release interface) with claimed := none })
  | .controlIn setup length timeout, d =>
    (d.logged (.controlIn setup length timeout)).answerControl setup.request timeout
  | .bulkOut endpoint data timeout, d =>
    (d.logged (.bulkOut endpoint data timeout)).acceptBulkOut data
  | .bulkIn endpoint maxLength timeout, d =>
    (d.logged (.bulkIn endpoint maxLength timeout)).nextBulkIn timeout
  | .interruptIn endpoint maxLength timeout, d =>
    (d.logged (.interruptIn endpoint maxLength timeout)).nextInterrupt timeout
  | .clearHalt endpoint, d => (.ok (), d.logged (.clearHalt endpoint))

/-- What the device does in a call; a fault that is due replaces the answer. -/
def perform (c : Call) (d : ScriptedDevice) : Except BusError c.Answer × ScriptedDevice :=
  let (answer, d) := d.respond c
  match (Faulty.ofCall c).bind fun call => takeFirst call d.faults with
  | some (e, rest) => (.error e, { d with faults := rest })
  | none => (answer, d)

end ScriptedDevice

end Benchtop
