import Benchtop.Proofs.Action
import Benchtop.Proofs.Resource.Address
import Benchtop.Resource.Discovery
import Benchtop.Scripted.Bus
import Mathlib.Data.List.Forall2

/-!
# Listed instruments

What comes of an address that a listing of the bus gives, when it is resolved on the same bus. The
devices that it can mean are those of the same vendor and the same product in normal use that have
the serial number of the listed one, or any if that has none (`DeviceInfo.Alike`).

Main statement: the address is resolved to the listed device if no other one is alike, and is reported
as ambiguous if some are, as long as it can be read (`resolve_listed`). The addresses that cannot be
read are those of `Address.Readable`: a device with such a serial number is listed by a name that opens
nothing (`not_resolve_listed_emptySerial`).
-/

namespace Benchtop

open Usb

variable {σ : Type}

/-- A device that cannot be told from `listed` by the address of that one. -/
def Usb.DeviceInfo.Alike (listed info : DeviceInfo) : Prop :=
  info.vendor = listed.vendor ∧
    normalProduct info.vendor info.product = normalProduct listed.vendor listed.product ∧
    ∀ serial ∈ listed.serial, info.serial = some serial

instance (listed info : DeviceInfo) : Decidable (listed.Alike info) :=
  inferInstanceAs (Decidable (_ ∧ _ ∧ ∀ _ ∈ listed.serial, _))

theorem Usb.DeviceInfo.alike_self (info : DeviceInfo) : info.Alike info := ⟨rfl, rfl, fun _ h => h⟩

/-- An id in normal use is that of no module whose firmware is updated. -/
theorem normalProduct_normalProduct (vendor product : UInt16) :
    normalProduct vendor (normalProduct vendor product) = normalProduct vendor product := by
  have hnormal : updateModeProducts.all fun p => (updateModeProducts.lookup p.2).isNone := by
    decide
  unfold normalProduct
  split
  · cases h : updateModeProducts.lookup product with
    | none => rw [Option.getD_none, h, Option.getD_none]
    | some normal =>
      obtain ⟨before, after, he, -⟩ := List.lookup_eq_some_iff.1 h
      have hmem : (product, normal) ∈ updateModeProducts :=
        he ▸ List.mem_append_right _ List.mem_cons_self
      have hnone : updateModeProducts.lookup normal = none :=
        Option.isNone_iff_eq_none.1 (List.all_eq_true.1 hnormal _ hmem)
      rw [Option.getD_some, hnone, Option.getD_none]
  · rfl

/-- The address of a listed device means what is alike. -/
theorem Address.means_ofDevice {listed info : DeviceInfo} :
    (Address.ofDevice listed).Means info ↔ listed.Alike info := by
  unfold Means ofDevice DeviceInfo.Alike
  rw [normalProduct_normalProduct]

theorem Selector.selects_ofDevice (listed info : DeviceInfo) :
    (Selector.ofAddress (.ofDevice listed)).selects info = decide (listed.Alike info) := by
  rw [selects_ofAddress, decide_eq_decide]
  exact Address.means_ofDevice

theorem Selector.filter_selects_ofDevice (listed : DeviceInfo) (devices : List DeviceInfo) :
    devices.filter (Selector.ofAddress (.ofDevice listed)).selects =
      devices.filter (listed.Alike ·) :=
  List.filter_congr fun info _ => selects_ofDevice listed info

/-! ## Listing and resolving -/

section

variable {bus : Bus σ} {s : σ} {attached : List DeviceInfo}

theorem attachedDevices_of_ok (h : (bus.enumerate s).1 = .ok attached) :
    attachedDevices bus s = (.ok attached, (bus.enumerate s).2) := by
  simp only [attachedDevices, h]
  rfl

theorem listDevices_of_ok (h : (bus.enumerate s).1 = .ok attached) :
    listDevices bus s = (.ok (attached.filter isInstrument), (bus.enumerate s).2) := by
  rw [listDevices, bind_of_ok (attachedDevices_of_ok h)]
  rfl

theorem listResources_of_ok (h : (bus.enumerate s).1 = .ok attached) :
    listResources bus s = (.ok ((attached.filter isInstrument).map fun info =>
      (Address.ofDevice info).toText), (bus.enumerate s).2) := by
  rw [listResources, bind_of_ok (listDevices_of_ok h)]
  rfl

/-- The printed form of an address is resolved by what the address selects, or refused. -/
theorem resolve_toText (h : (bus.enumerate s).1 = .ok attached) (a : Address) :
    (resolve bus (.named a.toText) s).1 =
      if a.Readable then (Selector.ofAddress a).pick (.named a.toText) attached
      else .error (.invalidResource a.toText) := by
  have hselector : (Resource.named a.toText).selector =
      if a.Readable then .ok (.inr (Selector.ofAddress a))
      else .error (.invalidResource a.toText) := by
    rw [Resource.selector, Selector.parse_toText]
    split <;> rfl
  rw [resolve, hselector]
  split
  · simp only [MonadExcept.ofExcept, pure_bind]
    rw [bind_of_ok (attachedDevices_of_ok h)]
    cases (Selector.ofAddress a).pick (.named a.toText) attached <;> rfl
  · rfl

end

/-- What a selector picks among devices of which `listed` is one that it selects. -/
theorem Selector.pick_of_mem {selector : Selector} {devices : List DeviceInfo} {listed : DeviceInfo}
    (h : listed ∈ devices.filter selector.selects) (resource : Resource) :
    selector.pick resource devices =
      if (devices.filter selector.selects).length = 1 then .ok listed
      else .error (.ambiguous resource.describe (devices.filter selector.selects).length) := by
  unfold Selector.pick
  split
  · next he =>
    rw [he] at h
    cases h
  · next info he =>
    rw [he] at h
    obtain rfl := List.mem_singleton.1 h
    simp [he]
  · next several hne hone =>
    rw [if_neg]
    rw [List.length_eq_one_iff]
    exact fun ⟨info, he⟩ => hone info he

/-- Each name that a listing gives is resolved on the same bus to the listed device, or reported as
ambiguous with the number of devices that it can mean, or refused because its serial number cannot be
read. -/
theorem resolve_listed {bus : Bus σ} {s t : σ} {attached : List DeviceInfo}
    (hs : (bus.enumerate s).1 = .ok attached) (ht : (bus.enumerate t).1 = .ok attached) :
    ∃ devices names, (listDevices bus s).1 = .ok devices ∧ (listResources bus s).1 = .ok names ∧
      List.Forall₂ (fun listed name =>
        (resolve bus (.named name) t).1 =
          if ¬ (Address.ofDevice listed).Readable then .error (.invalidResource name)
          else if (attached.filter (listed.Alike ·)).length = 1 then .ok listed
          else .error (.ambiguous name (attached.filter (listed.Alike ·)).length)) devices names := by
  refine ⟨_, _, by rw [listDevices_of_ok hs], by rw [listResources_of_ok hs], ?_⟩
  rw [List.forall₂_map_right_iff, List.forall₂_same]
  intro listed hlisted
  have hmem : listed ∈ attached.filter (Selector.ofAddress (.ofDevice listed)).selects := by
    rw [Selector.filter_selects_ofDevice]
    exact List.mem_filter.2 ⟨List.mem_of_mem_filter hlisted, decide_eq_true listed.alike_self⟩
  rw [resolve_toText ht, Selector.pick_of_mem hmem, Selector.filter_selects_ofDevice, ite_not]
  rfl

/-- A bus of instruments with these descriptions. -/
def busOf (attached : List DeviceInfo) : ScriptedBus where
  devices := attached.map fun info => (info, .plain)

theorem enumerate_busOf (attached : List DeviceInfo) :
    (ScriptedBus.behaviour.enumerate (busOf attached)).1 = .ok attached := by
  simp [ScriptedBus.behaviour, busOf, Function.comp_def]

/-- A module whose firmware is updated is listed by its id in normal use, and another one of that id
makes the name ambiguous although it is not listed itself. -/
theorem resolve_listed_updateMode :
    let updating : DeviceInfo := ⟨0x0957, 0x2818, some "A:1", "mock", 1, []⟩
    let normal : DeviceInfo := ⟨0x0957, 0x2918, some "A:1", "mock", 2, []⟩
    let other : DeviceInfo := ⟨0x1334, 1, none, "mock", 3, []⟩
    let bus := busOf [updating, normal, other]
    let updatingName := "USB::0x0957::0x2918::A:1::INSTR"
    let otherName := "USB::0x1334::0x0001::INSTR"
    (listResources ScriptedBus.behaviour bus).1 = .ok [updatingName, otherName] ∧
      (resolve ScriptedBus.behaviour (.named updatingName) bus).1 =
        .error (.ambiguous updatingName 2) ∧
      (resolve ScriptedBus.behaviour (.named otherName) bus).1 = .ok other := by
  intro updating normal other bus updatingName otherName
  have henumerate := enumerate_busOf [updating, normal, other]
  obtain ⟨devices, names, hdevices, hnames, hresolve⟩ := resolve_listed henumerate henumerate
  rw [listDevices_of_ok henumerate] at hdevices
  have hlisted : (listResources ScriptedBus.behaviour bus).1 = .ok [updatingName, otherName] := by
    rw [listResources_of_ok henumerate]
    decide
  obtain rfl : [updating, other] = devices := Except.ok.inj hdevices
  obtain rfl : names = [updatingName, otherName] := Except.ok.inj (hnames.symm.trans hlisted)
  simp only [List.forall₂_cons] at hresolve
  exact ⟨hnames, hresolve.1, hresolve.2.1⟩

/-- An instrument that reports an empty serial number is the only one on the bus, and yet the name by
which it is listed is refused. -/
theorem not_resolve_listed_emptySerial :
    let info : DeviceInfo := ⟨0x0957, 0x1755, some "", "mock", 1, [⟨0, 0xFE, 3, 0⟩]⟩
    let name := "USB::0x0957::0x1755::::INSTR"
    (listDevices ScriptedBus.behaviour (busOf [info])).1 = .ok [info] ∧
      (listResources ScriptedBus.behaviour (busOf [info])).1 = .ok [name] ∧
      (resolve ScriptedBus.behaviour (.named name) (busOf [info])).1 =
        .error (.invalidResource name) := by
  intro info name
  have henumerate := enumerate_busOf [info]
  have hname : (Address.ofDevice info).toText = name := by decide
  have hunreadable : ¬ (Address.ofDevice info).Readable := fun h => (h "" rfl).1 rfl
  have hresolve := resolve_toText henumerate (.ofDevice info)
  rw [if_neg hunreadable, hname] at hresolve
  rw [listDevices_of_ok henumerate, listResources_of_ok henumerate]
  exact ⟨rfl, congrArg (fun text => Except.ok [text]) hname, hresolve⟩

end Benchtop
