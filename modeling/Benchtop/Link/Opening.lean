import Benchtop.Link.Control

/-!
# Opening and handing back

`Link.establish` makes a link of an opened device: it picks configuration, interface and
endpoints, takes the interface from the operating system, claims it, asks for the capabilities and
takes remote control. Whatever it has acquired is handed back when a later step fails.

`Link.handBack` undoes all that. Every step is made even if an earlier one fails, and the first
failure is reported.
-/

namespace Benchtop.Link

open Usb Wire

variable {σ : Type}

/-! ## Choices -/

/-- The configuration to use. It is set when none is active, or when `force` is given. -/
def chooseConfiguration (dev : Device σ) (force : Bool) : Action σ Configuration := do
  let s ← get
  let configurations := dev.configurations s
  let active := dev.active s
  let value ←
    match active, force with
    | some value, false => pure value
    | _, _ =>
      match active <|> configurations.head?.map (·.value) with
      | none => throw (.notSupported .noConfigurations)
      | some value => do
        dev.call (.setConfiguration value)
        pure value
  match configurations.find? (·.value == value) with
  | some configuration => return configuration
  | none => throw (.notSupported (.configurationNotDescribed value))

/-- The first interface of the instrument class, or of an allow-listed device just the first. -/
def chooseInterface (info : DeviceInfo) (configuration : Configuration) :
    Except Failure Interface :=
  let inUse := configuration.interfaces.filter (·.alternate == 0)
  let fallback := if isAllowListed info.vendor info.product then inUse.head? else none
  match inUse.find? Interface.isInstrument <|> fallback with
  | some interface => .ok interface
  | none => .error (.notSupported (.noInstrumentInterface info.vendor info.product))

/-- The endpoints to use. -/
def findEndpoints (interface : Interface) : Except Failure Endpoints :=
  match interface.endpoint? .bulk .output, interface.endpoint? .bulk .input with
  | none, _ => .error (.missingEndpoint interface.number .output)
  | some _, none => .error (.missingEndpoint interface.number .input)
  | some bulkOut, some bulkIn =>
    .ok ⟨bulkOut, bulkIn, interface.endpoint? .interrupt .input⟩

/-! ## Handing back -/

/-- Makes one step of handing back; the first failure is kept. -/
def step (failed : Option Failure) (action : Exchange σ Unit) :
    StateM (Connection σ) (Option Failure) := do
  match ← Action.outcome action with
  | .ok () => return failed
  | .error e => return failed <|> some e

/-- Gives back remote control, if it was taken. -/
def leaveRemote (dev : Device σ) (failed : Option Failure) :
    StateM (Connection σ) (Option Failure) := do
  if (← get).link.remote then
    let failed ← step failed (goToLocal dev)
    let failed ← step failed (remoteControl dev false)
    modify fun s => { s with link.remote := false }
    return failed
  else return failed

/-- Unlocks the front panel, if it is locked. -/
def leaveLocked (dev : Device σ) (failed : Option Failure) :
    StateM (Connection σ) (Option Failure) := do
  if (← get).link.locked then
    let failed ← step failed (unlock dev)
    modify fun s => { s with link.locked := false }
    return failed
  else return failed

/-- Returns the interface to the operating system's driver, if it was taken from it. -/
def reattach (dev : Device σ) (failed : Option Failure) :
    StateM (Connection σ) (Option Failure) := do
  let link := (← get).link
  if link.driverDetached then
    let failed ← step failed (call dev (.attachDriver link.interface))
    modify fun s => { s with link.driverDetached := false }
    return failed
  else return failed

/-- Gives back remote control and the front panel, releases the interface and returns it to the
operating system's driver. Gives the first failure. -/
def handBack (dev : Device σ) : StateM (Connection σ) (Option Failure) := do
  let failed ← leaveRemote dev none
  let failed ← leaveLocked dev failed
  let failed ← step failed (call dev (.release (← get).link.interface))
  reattach dev failed

/-! ## Opening -/

/-- How the status byte of a device with these capabilities is read. -/
def chooseStatusMode (capabilities : Capabilities) (interruptIn : Option UInt8) : StatusMode :=
  if capabilities.isExtended && capabilities.ieee4882 then
    match interruptIn with
    | some endpoint => .interrupt endpoint
    | none => .control
  else .basic

/-- Asks for the capabilities, and takes remote control where there is such a thing. A device that
does not grant it is used all the same. -/
def negotiate (dev : Device σ) (usb488 lockout : Bool) : Exchange σ Unit := do
  let link := (← get).link
  let setup := Setup.toInterface Request.getCapabilities.code 0 link.interface
  let answer ← call dev (.controlIn setup 24 link.timing.timeout)
  match Capabilities.parse answer usb488 with
  | .error e => throw (.ofCapabilityError e)
  | .ok capabilities =>
    modify fun s =>
      { s with
        link.capabilities := capabilities
        link.statusMode := chooseStatusMode capabilities s.link.endpoints.interruptIn }
    if capabilities.remoteLocal then
      try
        remoteControl dev true
        if lockout then localLockout dev
      catch _ => pure ()

/-- The link to a device whose interface has just been claimed. -/
def fresh (info : DeviceInfo) (settings : Settings) (interface : Interface) (endpoints : Endpoints)
    (driverDetached : Bool) : Link where
  info := info
  interface := interface.number
  endpoints := endpoints
  capabilities := {}
  profile := .ofVendor info.vendor
  statusMode := .basic
  tags := {}
  statusTags := {}
  timing := .ofSettings settings
  maxTransferSize := max settings.maxTransferSize 1
  termChar := settings.termChar
  driverDetached := driverDetached
  remote := false
  locked := false

/-- Claims an interface. If that fails, the driver that was detached for it goes back. -/
def claim (dev : Device σ) (interface : Interface) (driverDetached : Bool) : Action σ Unit :=
  fun s =>
    match dev.perform (.claim interface.number interface.alternate) s with
    | (.ok (), s) => (.ok (), s)
    | (.error e, s) =>
      let s := if driverDetached then (dev.perform (.attachDriver interface.number) s).2 else s
      (.error (.bus e), s)

/-- Negotiates a link whose interface has been claimed, and hands everything back if that fails. -/
def settle (dev : Device σ) (link : Link) (usb488 lockout : Bool) : Action σ Link := fun s =>
  match (negotiate dev usb488 lockout).run ⟨link, s⟩ with
  | (.ok (), c) => (.ok c.link, c.device)
  | (.error e, c) => (.error e, (handBack dev c).2.device)

/-- Makes a link of an opened device. -/
def establish (dev : Device σ) (info : DeviceInfo) (settings : Settings) : Action σ Link := do
  let configuration ← chooseConfiguration dev settings.forceReconfigure
  let interface ← MonadExcept.ofExcept (chooseInterface info configuration)
  let endpoints ← MonadExcept.ofExcept (findEndpoints interface)
  let driverDetached ← dev.call (.detachDriver interface.number)
  claim dev interface driverDetached
  settle dev (fresh info settings interface endpoints driverDetached)
    (interface.protocol == usb488Protocol) settings.localLockout

end Benchtop.Link
