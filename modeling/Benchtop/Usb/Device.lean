import Benchtop.Usb.BusError
import Benchtop.Usb.Descriptor

/-!
# Calls of a device, and the bus

`Call` lists everything that can be asked of an opened device and `Call.Answer` what each call
gives back. A `Device σ` is any behaviour: for every call and every state an answer or a failure,
and the next state. Nothing is assumed about it, so a statement about all of them covers devices
that answer nonsense and calls that fail at any point.

`Device.Bounded` says of a measure of a device's state that it bounds how many bulk IN transfers
the device can still answer: a device with such a bound ends every message sooner or later.
-/

namespace Benchtop.Usb

/-! ## Control requests -/

inductive RequestType where
  | ofClass
  | ofVendor
  deriving DecidableEq, Repr

inductive Recipient where
  | interface
  | endpoint
  deriving DecidableEq, Repr

/-- A control request, but for direction and length. -/
structure Setup where
  type : RequestType
  recipient : Recipient
  request : UInt8
  value : UInt16
  index : UInt16
  deriving DecidableEq, Repr

namespace Setup

/-- A class request to an interface. -/
def toInterface (request : UInt8) (value : UInt16) (interface : UInt8) : Setup :=
  ⟨.ofClass, .interface, request, value, interface.toUInt16⟩

/-- A class request to an endpoint. -/
def toEndpoint (request : UInt8) (value : UInt16) (endpoint : UInt8) : Setup :=
  ⟨.ofClass, .endpoint, request, value, endpoint.toUInt16⟩

/-- A vendor request to an interface. -/
def vendor (request : UInt8) (value index : UInt16) : Setup :=
  ⟨.ofVendor, .interface, request, value, index⟩

end Setup

/-! ## Calls -/

inductive Call where
  | setConfiguration (value : UInt8)
  /-- Takes the interface from the operating system's driver. -/
  | detachDriver (interface : UInt8)
  /-- Gives the interface back to the operating system's driver. -/
  | attachDriver (interface : UInt8)
  | claim (interface alternate : UInt8)
  | release (interface : UInt8)
  | controlIn (setup : Setup) (length : UInt16) (timeout : Duration)
  | bulkOut (endpoint : UInt8) (data : List UInt8) (timeout : Duration)
  | bulkIn (endpoint : UInt8) (maxLength : Nat) (timeout : Duration)
  | interruptIn (endpoint : UInt8) (maxLength : Nat) (timeout : Duration)
  | clearHalt (endpoint : UInt8)
  deriving DecidableEq, Repr

/-- What a successful call gives: whether a driver was detached, how many bytes were written,
the bytes read. -/
@[reducible] def Call.Answer : Call → Type
  | setConfiguration _ => Unit
  | detachDriver _ => Bool
  | attachDriver _ => Unit
  | claim _ _ => Unit
  | release _ => Unit
  | controlIn _ _ _ => List UInt8
  | bulkOut _ _ _ => Nat
  | bulkIn _ _ _ => List UInt8
  | interruptIn _ _ _ => List UInt8
  | clearHalt _ => Unit

/-! ## Devices -/

/-- The behaviour of an opened device with states `σ`. -/
structure Device (σ : Type) where
  configurations : σ → List Configuration
  /-- The value of the active configuration, if there is one. -/
  active : σ → Option UInt8
  perform : (call : Call) → σ → Except BusError call.Answer × σ

/-- `supply` bounds how many more bulk IN transfers the device can answer: no call adds to it, and
a bulk IN transfer that succeeds takes from it. -/
structure Device.Bounded {σ : Type} (dev : Device σ) (supply : σ → Nat) : Prop where
  supply_le : ∀ call s, supply (dev.perform call s).2 ≤ supply s
  supply_lt : ∀ endpoint maxLength timeout s data,
    (dev.perform (.bulkIn endpoint maxLength timeout) s).1 = .ok data →
      supply (dev.perform (.bulkIn endpoint maxLength timeout) s).2 < supply s

/-- The behaviour of a bus with states `σ`. An opened device is known by a number. -/
structure Bus (σ : Type) where
  /-- The attached devices. -/
  enumerate : σ → Except BusError (List DeviceInfo) × σ
  openDevice : DeviceInfo → σ → Except BusError Nat × σ
  device : Nat → Device σ
  /-- The program has no more use for an opened device. -/
  letGo : Nat → σ → σ

end Benchtop.Usb
