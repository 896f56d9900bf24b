import Benchtop.Host.Device

/-!
# The bus of a host

The host as a bus: its devices, and the ones that the program has opened, by number.
-/

namespace Benchtop

open Usb

/-- A host, and the devices that were opened on it, the latest last. -/
structure HostBus where
  host : Host := {}
  opened : List Host.Opened := []

namespace HostBus

open Host

/-- A call of the host; a failure is one of opening. -/
def ask {α : Type} (request : Request α) : ExceptT BusError (StateM HostBus) α := fun b =>
  let (answer, host) := request b.host
  (answer.mapError BusError.openFailed, { b with host })

/-- Opens the first listed device at the location of `info`. -/
def openDevice (info : DeviceInfo) : ExceptT BusError (StateM HostBus) Nat := do
  let infos ← ask listDevices
  match infos.findIdx? (·.sameLocation info) with
  | none => throw (.deviceNotFound info.vendor info.product)
  | some place =>
    ask (Host.openDevice (infos.getD place info))
    let count := (← get).opened.length
    modify fun b => { b with opened := b.opened ++ [({ place } : Opened)] }
    return count

/-- The device of a number. -/
def device (number : Nat) : Device HostBus where
  configurations b :=
    ((b.opened[number]?.bind fun o => b.host.peripherals[o.place]?).map
      Peripheral.descriptors).getD []
  active b :=
    (b.opened[number]?.bind fun o => b.host.peripherals[o.place]?).bind fun p =>
      p.activeConfiguration?.map (·.value)
  perform c b :=
    match b.opened[number]? with
    | none => (.error .disconnected, b)
    | some opened =>
      let (answer, seat) := Host.perform c ⟨opened, b.host⟩
      (answer, { host := seat.host, opened := b.opened.set number seat.opened })

/-- Lets go of the device of a number. -/
def letGo (number : Nat) (b : HostBus) : HostBus :=
  match b.opened[number]? with
  | none => b
  | some opened =>
    let seat := letGoOfDevice ⟨opened, b.host⟩
    { host := seat.host, opened := b.opened.set number seat.opened }

/-- The behaviour of the bus of a host. -/
def behaviour : Bus HostBus where
  enumerate b := (ask listDevices).run b
  openDevice info b := (openDevice info).run b
  device := device
  letGo := letGo

end HostBus

end Benchtop
