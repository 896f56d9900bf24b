import Benchtop.Link.Message
import Benchtop.Text.Response

/-!
# Status, clear, trigger and the front panel

The operations of an open instrument that are not messages. Each is made only if the device says
that it knows it: a trigger and the status byte fall back to `*TRG` and `*STB?`, the others are
refused before any call.
-/

namespace Benchtop.Link

open Usb Wire

variable {σ : Type}

/-! ## Status byte -/

/-- Reads the status byte by the query `*STB?`. -/
def queryStatusByte (dev : Device σ) : Exchange σ UInt8 := do
  writeMessage dev (Text.bytesOf "*STB?")
  let text := Text.responseText (← readMessage dev)
  match Text.readUnsigned 10 255 (Text.trim text) with
  | some n => return UInt8.ofNat n
  | none => throw (.badAnswer (.noStatusByte (String.ofList text)))

/-- The status byte in the notification of the request `tag`. -/
def ofNotification (tag : UInt8) : List UInt8 → Except Failure UInt8
  | echo :: status :: _ =>
    if echo = 0x80 ||| tag then .ok status else .error (.tagMismatch (0x80 ||| tag) echo)
  | _ => .error (.badAnswer (.tooShort "interrupt notification" 2))

/-- Requests the status byte. `endpoint` is where the device puts it, if not in the answer. -/
def requestStatusByte (dev : Device σ) (endpoint : Option UInt8) : Exchange σ UInt8 := do
  let tag ← nextStatusTag
  let link := (← get).link
  let name := Request.readStatusByte.name
  let setup := Setup.toInterface Request.readStatusByte.code tag.toUInt16 link.interface
  let answer ← call dev (.controlIn setup 3 link.timing.timeout)
  let status ← MonadExcept.ofExcept (statusOf name answer)
  if status ≠ .success then throw (.statusReadFailed status.code)
  match answer.drop 1 with
  | [] => throw (.badAnswer (.tooShort name 2))
  | echo :: rest =>
    if echo ≠ tag then throw (.tagMismatch tag echo)
    match endpoint with
    | some endpoint =>
      let notification ← call dev (.interruptIn endpoint 2 link.timing.timeout)
      MonadExcept.ofExcept (ofNotification tag notification)
    | none =>
      match rest with
      | [] => throw (.badAnswer (.tooShort name 3))
      | status :: _ => return status

/-- Reads the status byte. -/
def readStatusByte (dev : Device σ) : Exchange σ UInt8 := do
  match (← get).link.statusMode with
  | .basic => queryStatusByte dev
  | .interrupt endpoint => requestStatusByte dev (some endpoint)
  | .control => requestStatusByte dev none

/-! ## Clear and trigger -/

/-- Clears the device's buffers, draining them while it asks for that, and then the halt of the bulk
OUT endpoint. -/
def clear (dev : Device σ) : Exchange σ Unit := do
  let link := (← get).link
  let setup := Setup.toInterface Request.initiateClear.code 0 link.interface
  let answer ← call dev (.controlIn setup 1 link.timing.abortTimeout)
  let status ← MonadExcept.ofExcept (statusOf Request.initiateClear.name answer)
  if status ≠ .success then throw (.clearFailed status.code)
  let setup := Setup.toInterface Request.checkClear.code 0 link.interface
  let answer ← pollStatus dev .clear setup 2 (drainIfAsked dev) link.timing.maxPolls
  let status ← MonadExcept.ofExcept (statusOf Request.checkClear.name answer)
  if status ≠ .success then throw (.clearFailed status.code)
  call dev (.clearHalt link.endpoints.bulkOut)

/-- Triggers the instrument, by a trigger message if it takes one. -/
def trigger (dev : Device σ) : Exchange σ Unit := do
  let link := (← get).link
  if link.capabilities.isExtended && link.capabilities.trigger then
    let tag ← nextTag
    send dev tag (Envelope.mk .trigger tag 0 false none).bytes
  else
    writeMessage dev (Text.bytesOf "*TRG")

/-- Blinks the activity indicator; `false` if there is none. -/
def pulse (dev : Device σ) : Exchange σ Bool := do
  if (← get).link.capabilities.pulse then
    request dev .indicatorPulse 0
    return true
  else
    return false

/-! ## Remote and local -/

/-- Refuses what needs remote and local control. -/
def requireRemoteLocal : Exchange σ Unit := do
  unless (← get).link.capabilities.remoteLocal do throw (.notSupported .remoteLocal)

/-- The value of a request that switches something. -/
def switchValue (on : Bool) : UInt16 := if on then 1 else 0

/-- Takes remote control, or gives it back. -/
def remoteControl (dev : Device σ) (enable : Bool) : Exchange σ Unit := do
  requireRemoteLocal
  request dev .remoteEnable (switchValue enable)
  modify fun s => { s with link.remote := enable }

def goToLocal (dev : Device σ) : Exchange σ Unit := do
  requireRemoteLocal
  request dev .goToLocal 0

def localLockout (dev : Device σ) : Exchange σ Unit := do
  requireRemoteLocal
  request dev .localLockout 0

/-! ## Front panel -/

/-- Refuses what needs a lockable instrument. -/
def requireLockable (operation : String) : Exchange σ Unit := do
  let link := (← get).link
  unless link.profile.isLockable do
    throw (.notSupported (.frontPanel operation link.info.vendor link.info.product))

/-- Switches the front panel lock. Any answer will do. -/
def setLock (dev : Device σ) (on : Bool) : Exchange σ Unit := do
  let link := (← get).link
  let setup := Setup.toInterface Request.frontPanelLock.code (switchValue on) link.interface
  let _ ← call dev (.controlIn setup 1 link.timing.timeout)
  modify fun s => { s with link.locked := on }

def lock (dev : Device σ) : Exchange σ Unit := do
  requireLockable "lock"
  setLock dev true

def unlock (dev : Device σ) : Exchange σ Unit := do
  requireLockable "unlock"
  setLock dev false

/-- Reads the diagnostic id; none if the request fails or its answer is empty. -/
def readVendorId (dev : Device σ) : Exchange σ (Option UInt8) := do
  requireLockable "read_vendor_id"
  let link := (← get).link
  let setup := Setup.vendor Request.diagnosticId.code 0 link.interface.toUInt16
  match ← attempt dev (.controlIn setup 1 link.timing.timeout) with
  | .ok (id :: _) => return some id
  | _ => return none

end Benchtop.Link
