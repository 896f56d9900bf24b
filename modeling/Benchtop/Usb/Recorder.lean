import Benchtop.Usb.Device

/-!
# Recording a device or a bus

A device or a bus that behaves like a given one and keeps a record of what was asked of it, with the
answers. Everything that can be said about the traffic of a program is said about such a record.
-/

namespace Benchtop.Usb

variable {σ : Type}

/-- A call of a device with the answer it got. -/
structure Event where
  call : Call
  answer : Except BusError call.Answer

/-- The device with a record of its calls, the latest last. -/
def Device.recorded (dev : Device σ) : Device (σ × List Event) where
  configurations s := dev.configurations s.1
  active s := dev.active s.1
  perform call s :=
    let (answer, next) := dev.perform call s.1
    (answer, (next, s.2 ++ [⟨call, answer⟩]))

/-- What happens on a bus. -/
inductive BusEvent where
  | enumerate (answer : Except BusError (List DeviceInfo))
  | openDevice (info : DeviceInfo) (answer : Except BusError Nat)
  | call (number : Nat) (event : Event)
  | letGo (number : Nat)

/-- The bus with a record of its events, the latest last. -/
def Bus.recorded (bus : Bus σ) : Bus (σ × List BusEvent) where
  enumerate s :=
    let (answer, next) := bus.enumerate s.1
    (answer, (next, s.2 ++ [.enumerate answer]))
  openDevice info s :=
    let (answer, next) := bus.openDevice info s.1
    (answer, (next, s.2 ++ [.openDevice info answer]))
  device number :=
    let dev := bus.device number
    { configurations := fun s => dev.configurations s.1
      active := fun s => dev.active s.1
      perform := fun call s =>
        let (answer, next) := dev.perform call s.1
        (answer, (next, s.2 ++ [.call number ⟨call, answer⟩])) }
  letGo number s := (bus.letGo number s.1, s.2 ++ [.letGo number])

end Benchtop.Usb
