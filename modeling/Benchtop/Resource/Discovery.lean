import Benchtop.Action
import Benchtop.Resource.Basic

/-!
# Discovery

Which attached devices are instruments, and which one a resource names. A resource that is an
enumerated device is taken at its word; every other one must select exactly one device on the bus.
-/

namespace Benchtop

open Usb

variable {σ : Type}

/-- Whether a device looks like an instrument before it is opened. -/
def isInstrument (info : DeviceInfo) : Bool :=
  info.interfaces.any InterfaceClass.isInstrument || isAllowListed info.vendor info.product

/-- The devices on the bus. -/
def attachedDevices (bus : Bus σ) : Action σ (List DeviceInfo) := fun s =>
  let (answer, s) := bus.enumerate s
  (answer.mapError Failure.bus, s)

/-- The instruments on the bus. -/
def listDevices (bus : Bus σ) : Action σ (List DeviceInfo) :=
  return (← attachedDevices bus).filter isInstrument

/-- The addresses of the instruments on the bus. -/
def listResources (bus : Bus σ) : Action σ (List String) :=
  return (← listDevices bus).map fun info => (Address.ofDevice info).toText

/-- What a resource asks of a device, unless it is one. -/
def Resource.selector : Resource → Except Failure (DeviceInfo ⊕ Selector)
  | .attached info => .ok (.inl info)
  | .named text => (Selector.parse text).map .inr
  | .ids (some vendor) product serial => .ok (.inr ⟨vendor, product, serial⟩)
  | .ids none _ _ => .error (.invalidResource "a vendor id or a device is required")

/-- The one device among `devices` that is selected. -/
def Selector.pick (s : Selector) (resource : Resource) (devices : List DeviceInfo) :
    Except Failure DeviceInfo :=
  match devices.filter s.selects with
  | [] => .error (.notFound resource.describe)
  | [info] => .ok info
  | several => .error (.ambiguous resource.describe several.length)

/-- The device that a resource names. -/
def resolve (bus : Bus σ) (resource : Resource) : Action σ DeviceInfo := do
  match ← MonadExcept.ofExcept resource.selector with
  | .inl info => return info
  | .inr selector => MonadExcept.ofExcept (selector.pick resource (← attachedDevices bus))

end Benchtop
