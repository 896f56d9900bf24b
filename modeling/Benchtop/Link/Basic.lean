import Benchtop.Action
import Benchtop.Profile
import Benchtop.Settings.Basic
import Benchtop.Wire.Capabilities
import Benchtop.Wire.Tag

/-!
# The link to an open instrument

What the driver knows of an instrument while it is open (`Link`), and actions on it
(`Exchange`). A link exists only between a successful claim of the interface and its release, so
no action on a link can reach a closed device.
-/

namespace Benchtop

open Usb Wire

variable {σ : Type}

/-- The addresses of the endpoints in use. -/
structure Endpoints where
  bulkOut : UInt8
  bulkIn : UInt8
  interruptIn : Option UInt8
  deriving DecidableEq, Repr

/-- How the status byte is read. -/
inductive StatusMode where
  /-- By a request that is answered on the interrupt endpoint. -/
  | interrupt (endpoint : UInt8)
  /-- By a request that is answered at once. -/
  | control
  /-- By the query `*STB?`. -/
  | basic
  deriving DecidableEq, Repr

/-- The status byte is read by a request. -/
def StatusMode.isExtended : StatusMode → Bool
  | basic => false
  | _ => true

structure Timing where
  /-- For transfers and ordinary requests. -/
  timeout : Duration
  /-- For the requests of an abort or a clear, and for draining. -/
  abortTimeout : Duration
  maxPolls : Nat
  deriving DecidableEq, Repr

def Timing.ofSettings (s : Settings) : Timing :=
  ⟨s.timeout, s.abortTimeout, max s.maxStatusPolls.toNat 1⟩

structure Link where
  info : DeviceInfo
  /-- The number of the claimed interface. -/
  interface : UInt8
  endpoints : Endpoints
  capabilities : Capabilities
  profile : Profile
  statusMode : StatusMode
  tags : TagCounter
  statusTags : StatusTagCounter
  timing : Timing
  maxTransferSize : UInt32
  termChar : Option UInt8
  /-- The operating system's driver was detached and has to be put back. -/
  driverDetached : Bool
  remote : Bool
  locked : Bool
  deriving DecidableEq, Repr

/-- A link and the state of its device. -/
structure Connection (σ : Type) where
  link : Link
  device : σ

/-- An action on an open instrument. -/
abbrev Exchange (σ : Type) := Action (Connection σ)

namespace Link

/-- Makes a call of the device and gives its failure as a value. -/
def attempt (dev : Device σ) (c : Call) : StateM (Connection σ) (Except BusError c.Answer) :=
  fun s =>
    let (answer, device) := dev.perform c s.device
    (answer, { s with device })

/-- Makes a call of the device. -/
def call (dev : Device σ) (c : Call) : Exchange σ c.Answer := fun s =>
  let (answer, s) := attempt dev c s
  (answer.mapError Failure.bus, s)

/-- The next bulk tag. -/
def nextTag : Exchange σ UInt8 := do
  modify fun s => { s with link.tags := s.link.tags.next }
  return (← get).link.tags.current

/-- The next tag of a status byte request. -/
def nextStatusTag : Exchange σ UInt8 := do
  modify fun s => { s with link.statusTags := s.link.statusTags.next }
  return (← get).link.statusTags.current

/-- The status in the first byte of an answer to `what`. -/
def statusOf (what : String) : List UInt8 → Except Failure Status
  | [] => .error (.badAnswer (.noData what))
  | code :: _ => .ok (Status.ofCode code)

/-- Makes a class request to the interface whose answer has to begin with success. -/
def request (dev : Device σ) (r : Request) (value : UInt16) : Exchange σ Unit := do
  let link := (← get).link
  let setup := Setup.toInterface r.code value link.interface
  let answer ← call dev (.controlIn setup 1 link.timing.timeout)
  let status ← MonadExcept.ofExcept (statusOf r.name answer)
  if status ≠ .success then
    throw (.requestFailed r status.code)

end Link

end Benchtop
