import Benchtop.Scripted.Device

/-!
# A bus of scripted devices

Scripted devices attached to a bus, in order. A device is opened by its location, and an opened
device is known by its place in the order.
-/

namespace Benchtop

open Usb Scripted

structure ScriptedBus where
  devices : List (DeviceInfo × ScriptedDevice) := []
  /-- What the next enumerations and openings report in place of their result. -/
  enumerateFaults : List BusError := []
  openFaults : List BusError := []

namespace ScriptedBus

/-- The address after `count` devices: one more than what eight bits keep of their number. None if that has
no room in eight bits, where the program does not go on. -/
def nextAddress (count : Nat) : Option UInt8 :=
  let kept := UInt8.ofNat count
  if kept = 255 then none else some (kept + 1)

/-- The description of a device that is attached after `count` others, with a location. A missing one is
filled in. -/
def locate (count : Nat) (info : DeviceInfo) : Option DeviceInfo :=
  if info.busId.isEmpty then
    (nextAddress count).map fun address => { info with busId := "mock", address }
  else some info

/-- The completed description: it has a location, and a missing list of interfaces is taken from the device's
descriptors. -/
def complete (count : Nat) (info : DeviceInfo) (device : ScriptedDevice) : Option DeviceInfo := do
  let info ← locate count info
  return if info.interfaces.isEmpty then
      { info with
        interfaces := device.configurations.flatMap fun c => c.interfaces.map Interface.summary }
    else info

/-- Attaches a device, and gives its completed description. -/
def attach (bus : ScriptedBus) (info : DeviceInfo) (device : ScriptedDevice) :
    Option (DeviceInfo × ScriptedBus) := do
  let info ← complete bus.devices.length info device
  return (info, { bus with devices := bus.devices ++ [(info, device)] })

/-- Attaches devices one after the other and gives their completed descriptions. -/
def attachAll : (bus : ScriptedBus) → List (DeviceInfo × ScriptedDevice) →
    Option (List DeviceInfo × ScriptedBus)
  | bus, [] => some ([], bus)
  | bus, (info, device) :: devices => do
    let (info, bus) ← bus.attach info device
    let (infos, bus) ← bus.attachAll devices
    return (info :: infos, bus)

/-- The place of the first device at the location of `info`. -/
def find (bus : ScriptedBus) (info : DeviceInfo) : Except BusError Nat :=
  match bus.devices.findIdx? fun (candidate, _) => candidate.sameLocation info with
  | some i => .ok i
  | none => .error (.deviceNotFound info.vendor info.product)

/-- The device at a place, as part of the bus. -/
def device (place : Nat) : Device ScriptedBus where
  configurations bus := (bus.devices[place]?.map fun (_, d) => d.configurations).getD []
  active bus := bus.devices[place]?.bind fun (_, d) => d.active
  perform c bus :=
    match bus.devices[place]? with
    | none => (.error .disconnected, bus)
    | some (info, d) =>
      let (answer, d) := d.perform c
      (answer, { bus with devices := bus.devices.set place (info, d) })

/-- The queued bulk IN transfers of the device at a place. -/
def queued (place : Nat) (bus : ScriptedBus) : Nat :=
  (bus.devices[place]?.map fun (_, d) => d.bulkInQueue.length).getD 0

/-- The behaviour of a bus of scripted devices. -/
def behaviour : Bus ScriptedBus where
  enumerate bus :=
    match bus.enumerateFaults with
    | e :: rest => (.error e, { bus with enumerateFaults := rest })
    | [] => (.ok (bus.devices.map (·.1)), bus)
  openDevice info bus :=
    match bus.openFaults with
    | e :: rest => (.error e, { bus with openFaults := rest })
    | [] => (bus.find info, bus)
  device := device
  letGo _ bus := bus

end ScriptedBus

end Benchtop
