import Benchtop.Proofs.Link.Outcome
import Benchtop.Proofs.Resource.Listing
import Benchtop.Proofs.Scripted.Attaching
import Benchtop.Proofs.Scripted.Custody
import Benchtop.Proofs.Session.Run

/-!
# Whatever can be opened is listed

Two readings tell whether a device is an instrument. A listing of the bus goes by what enumeration tells of
the interfaces, those of every configuration and every alternate setting. Opening goes by the descriptors, and
there by the interfaces in use of the one configuration that it chooses. A device whose interfaces are all
told (`TellsInterfaces`) has nothing to choose unless it is listed (`chooseInterface_of_not_isInstrument`),
and then it is refused after no call but one for its configuration (`establish_refused`).

Main statement: on a bus of scripted devices, a device that has been attached without a list of interfaces is
listed if it has been opened, and refused as not supported if it is not listed (`listed_of_openUp`).
-/

namespace Benchtop

open Usb Scripted

/-! ## What there is to choose of a device that is not listed -/

/-- Enumeration tells of all the interfaces that these configurations have. -/
def TellsInterfaces (info : DeviceInfo) (configurations : List Configuration) : Prop :=
  ∀ configuration ∈ configurations, ∀ interface ∈ configuration.interfaces,
    interface.summary ∈ info.interfaces

namespace Link

variable {info : DeviceInfo} {configurations : List Configuration} {configuration : Configuration}

/-- An interface that can be used makes an instrument of the device. -/
theorem isInstrument_of_isUsable {interface : Interface} (htells : TellsInterfaces info configurations)
    (hconfiguration : configuration ∈ configurations) (hmem : interface ∈ configuration.interfaces)
    (h : IsUsable info configuration interface) : isInstrument info := by
  rw [isInstrument, Bool.or_eq_true]
  rcases h.2 with hclass | ⟨hallowed, -⟩
  · exact .inl (List.any_eq_true.2 ⟨_, htells _ hconfiguration _ hmem, hclass⟩)
  · exact .inr hallowed

theorem chooseInterface_cases (info : DeviceInfo) (configuration : Configuration) :
    (∃ interface, chooseInterface info configuration = .ok interface) ∨
      chooseInterface info configuration =
        .error (.notSupported (.noInstrumentInterface info.vendor info.product)) := by
  unfold chooseInterface
  dsimp only
  split
  · next interface _ => exact .inl ⟨interface, rfl⟩
  · exact .inr rfl

/-- A device that is not listed has no interface to choose. -/
theorem chooseInterface_of_not_isInstrument (htells : TellsInterfaces info configurations)
    (h : ¬ isInstrument info) (hconfiguration : configuration ∈ configurations) :
    chooseInterface info configuration =
      .error (.notSupported (.noInstrumentInterface info.vendor info.product)) := by
  refine (chooseInterface_cases info configuration).resolve_left fun ⟨interface, hchosen⟩ => h ?_
  obtain ⟨hmem, husable⟩ := (chooseInterface_eq_ok_iff.1 hchosen).mem
  exact isInstrument_of_isUsable htells hconfiguration hmem husable

section

variable {σ : Type} {dev : Device σ} {s : σ}

/-- The calls do nothing but set configurations. -/
def OnlyConfigures (events : List Event) : Prop :=
  ∀ e ∈ events, ∃ value, e.call = .setConfiguration value

/-- Choosing a configuration gives one that is described, or tells that there is none, if setting one does
not fail. -/
theorem chooseConfiguration_cases (hset : ∀ value, (dev.perform (.setConfiguration value) s).1 = .ok ())
    (force : Bool) :
    ∃ events t, dev.Trace s events t ∧ OnlyConfigures events ∧
      ((∃ configuration ∈ dev.configurations s,
          chooseConfiguration dev force s = (.ok configuration, t)) ∨
        ∃ what, chooseConfiguration dev force s = (.error (.notSupported what), t)) := by
  rw [chooseConfiguration_apply]
  cases configurationValue? dev s with
  | none => exact ⟨[], s, rfl, List.forall_mem_nil _, .inr ⟨_, rfl⟩⟩
  | some value =>
    have hdescribed (t : σ) :
        (∃ configuration ∈ dev.configurations s,
          (configurationOf dev value s, t) = (.ok configuration, t)) ∨
        ∃ what, (configurationOf dev value s, t) = (.error (.notSupported what), t) := by
      unfold configurationOf
      split
      · next configuration hfound => exact .inl ⟨configuration, List.mem_of_find?_eq_some hfound, rfl⟩
      · exact .inr ⟨_, rfl⟩
    dsimp only
    by_cases hsets : reconfigures dev force s
    · have hcall : dev.call (.setConfiguration value) s =
          (.ok (), (dev.perform (.setConfiguration value) s).2) :=
        Device.call_eq_ok_iff.2 ⟨_, Prod.ext (hset value) rfl, rfl⟩
      rw [if_pos hsets, hcall]
      refine ⟨_, _, dev.trace_perform (.setConfiguration value) s, ?_, hdescribed _⟩
      exact List.forall_mem_singleton.2 ⟨value, rfl⟩
    · rw [if_neg hsets]
      exact ⟨[], s, rfl, List.forall_mem_nil _, hdescribed s⟩

/-- A device with nothing to choose is refused as not supported, after no call but one for its
configuration. -/
theorem establish_refused (hset : ∀ value, (dev.perform (.setConfiguration value) s).1 = .ok ())
    (htells : TellsInterfaces info (dev.configurations s)) (h : ¬ isInstrument info)
    (settings : Settings) :
    ∃ what events t, establish dev info settings s = (.error (.notSupported what), t) ∧
      dev.Trace s events t ∧ OnlyConfigures events := by
  obtain ⟨events, t, ht, hevents, ⟨configuration, hmem, hchosen⟩ | ⟨what, hnone⟩⟩ :=
    chooseConfiguration_cases hset settings.forceReconfigure
  · refine ⟨.noInstrumentInterface info.vendor info.product, events, t, ?_, ht, hevents⟩
    rw [establish, bind_of_ok hchosen, chooseInterface_of_not_isInstrument htells h hmem]
    rfl
  · exact ⟨what, events, t, by rw [establish, bind_of_error hnone], ht, hevents⟩

end

end Link

/-! ## Scripted devices -/

/-- Setting a configuration is not going to report a failure. -/
def ScriptedDevice.Configurable (d : ScriptedDevice) : Prop :=
  ∀ fault ∈ d.faults, fault.1 ≠ .setConfiguration

theorem ScriptedDevice.Configurable.perform {d : ScriptedDevice} (h : d.Configurable) (value : UInt8) :
    (d.perform (.setConfiguration value)).1 = .ok () := by
  rw [perform_of_forall_ne rfl h]
  rfl

namespace ScriptedBus

/-- What enumeration gives depends on the descriptions and the faults of enumerations. -/
theorem enumerate_congr {bus bus' : ScriptedBus}
    (hinfos : bus'.devices.map (·.1) = bus.devices.map (·.1))
    (hfaults : bus'.enumerateFaults = bus.enumerateFaults) :
    (behaviour.enumerate bus').1 = (behaviour.enumerate bus).1 := by
  simp only [behaviour, hfaults]
  cases bus.enumerateFaults with
  | nil => exact congrArg Except.ok hinfos
  | cons => rfl

theorem enumerate_perform (place : Nat) (call : Call) (bus : ScriptedBus) :
    (behaviour.enumerate ((device place).perform call bus).2).1 = (behaviour.enumerate bus).1 := by
  match hd : bus.devices[place]? with
  | none => rw [perform_device_of_none call hd]
  | some (info, d) =>
    simp only [device, hd]
    refine enumerate_congr ?_ rfl
    rw [List.map_set]
    exact set_of_getElem? (by rw [List.getElem?_map, hd]; rfl)

theorem enumerate_openDevice (info : DeviceInfo) (bus : ScriptedBus) :
    (behaviour.enumerate (behaviour.openDevice info bus).2).1 = (behaviour.enumerate bus).1 := by
  have hsame : (behaviour.openDevice info bus).2.devices = bus.devices ∧
      (behaviour.openDevice info bus).2.enumerateFaults = bus.enumerateFaults := by
    dsimp only [behaviour]
    split <;> exact ⟨rfl, rfl⟩
  exact enumerate_congr (congrArg (List.map (·.1)) hsame.1) hsame.2

/-- A device tells the interfaces that it describes if it has been attached without a list of them. -/
theorem tellsInterfaces_complete {count : Nat} {info told : DeviceInfo} {d : ScriptedDevice}
    (h : info.interfaces = []) (htold : complete count info d = some told) :
    TellsInterfaces told d.configurations := by
  intro configuration hconfiguration interface hinterface
  rw [interfaces_complete h htold]
  exact List.mem_flatMap.2 ⟨configuration, hconfiguration, List.mem_map_of_mem hinterface⟩

end ScriptedBus

/-! ## Opening a session with a device -/

namespace Session

open ScriptedBus

/-- Enumeration gives the same of both buses. -/
def EnumeratesAlike (s t : ScriptedBus × List BusEvent) : Prop :=
  (behaviour.enumerate t.1).1 = (behaviour.enumerate s.1).1

instance : Std.Refl EnumeratesAlike where
  refl _ := rfl

instance : IsTrans (ScriptedBus × List BusEvent) EnumeratesAlike where
  trans _ _ _ h h' := h'.trans h

/-- Opening a device changes nothing of what is enumerated. -/
theorem enumeratesAlike_openUp (info : DeviceInfo) (settings : Settings)
    (s : ScriptedBus × List BusEvent) :
    EnumeratesAlike s
      (openUp behaviour.recorded ⟨{ resource := .attached info, settings }, s⟩).2.bus := by
  have hmake (number : Nat) : Respects EnumeratesAlike
      (Link.establish (behaviour.recorded.device number) info settings) :=
    Link.respects_establish (fun call s => enumerate_perform number call s.1) info settings
  have halike : EnumeratesAlike s (openLink behaviour.recorded info settings s).2 :=
    respects_openLink (fun s => enumerate_openDevice info s.1) hmake (fun _ _ => rfl) s
  rw [openUp_attached]
  generalize openLink behaviour.recorded info settings s = made at *
  rcases made with ⟨e | opened, t⟩ <;> exact halike

/-- A device that is not listed is refused, and nothing but its configuration has been set then. -/
theorem openUp_refused {bus : ScriptedBus} {i : Nat} {info : DeviceInfo} {d : ScriptedDevice}
    (hopen : behaviour.openDevice info bus = (.ok i, bus)) (hi : bus.devices[i]? = some (info, d))
    (hd : d.Configurable) (htells : TellsInterfaces info d.configurations) (h : ¬ isInstrument info)
    (settings : Settings) (log : List BusEvent) :
    let made := openUp behaviour.recorded ⟨{ resource := .attached info, settings }, (bus, log)⟩
    (∃ what, made.1 = .error (.notSupported what)) ∧
      ∃ events, made.2.bus.2 = log ++ .openDevice info (.ok i) :: events.map (.call i) ++ [.letGo i] ∧
        Link.OnlyConfigures events := by
  intro made
  have hopened : behaviour.recorded.openDevice info (bus, log) =
      (.ok i, (bus, log ++ [.openDevice info (.ok i)])) := by
    simp only [Bus.recorded, hopen]
  have hset (value : UInt8) : ((behaviour.recorded.device i).perform (.setConfiguration value)
      (bus, log ++ [.openDevice info (.ok i)])).1 = .ok () := by
    rw [← hd.perform value, ← (perform_device (.setConfiguration value) hi).1]
    rfl
  have hdescribed : (behaviour.recorded.device i).configurations
      (bus, log ++ [.openDevice info (.ok i)]) = d.configurations := by
    simp only [Bus.recorded, behaviour, device, hi]
    rfl
  obtain ⟨what, events, t, hmade, ht, hevents⟩ :=
    Link.establish_refused hset (hdescribed ▸ htells) h settings
  have hlink : openLink behaviour.recorded info settings (bus, log) =
      (.error (.notSupported what), behaviour.recorded.letGo i t) := by
    rw [openLink_apply]
    simp only [hopened, hmade]
  rw [show made = _ from openUp_attached info settings (bus, log), hlink]
  refine ⟨⟨what, rfl⟩, events, ?_, hevents⟩
  change t.2 ++ [.letGo i] = _
  rw [ht.busLog_eq, List.append_assoc log]
  rfl

/-- Scripted devices have been attached to a bus, no two of them at the same location. One of them has been
attached without a list of interfaces and can be configured; the devices are in whatever states. A listing of
the bus gives the same before a session is opened with this device and afterwards. If opening succeeds, the
device is listed, and its address is among the names. If the device is not listed, opening fails as not
supported, and all that the device has been asked for by then is a configuration. -/
theorem listed_of_openUp {devices : List (DeviceInfo × ScriptedDevice)} {infos : List DeviceInfo}
    {bus : ScriptedBus} (hattached : attachAll {} devices = some (infos, bus))
    (hdistinct : infos.Pairwise fun a b => ¬ a.sameLocation b) {i : Nat}
    {entry : DeviceInfo × ScriptedDevice} (hentry : devices[i]? = some entry)
    (hinterfaces : entry.1.interfaces = []) (hfaults : entry.2.Configurable) {info : DeviceInfo}
    (hi : infos[i]? = some info) (settings : Settings) (log : List BusEvent) :
    let made := openUp behaviour.recorded ⟨{ resource := .attached info, settings }, (bus, log)⟩
    ∃ listed names,
      (∀ s ∈ [bus, made.2.bus.1],
        (listDevices behaviour s).1 = .ok listed ∧ (listResources behaviour s).1 = .ok names) ∧
      (made.1 = .ok () → info ∈ listed ∧ (Address.ofDevice info).toText ∈ names) ∧
      (info ∉ listed →
        (∃ what, made.1 = .error (.notSupported what)) ∧
        ∃ events,
          made.2.bus.2 = log ++ .openDevice info (.ok i) :: events.map (.call i) ++ [.letGo i] ∧
          Link.OnlyConfigures events) := by
  intro made
  obtain ⟨entry', hentry', hcomplete, hplace⟩ := exists_of_getElem?_attachAll hattached hi
  obtain rfl : entry = entry' := Option.some.inj (hentry.symm.trans hentry')
  have hopen : behaviour.openDevice info bus = (.ok i, bus) :=
    openDevice_attachAll hattached hdistinct hi
  have htells : TellsInterfaces info entry.2.configurations :=
    tellsInterfaces_complete hinterfaces hcomplete
  -- Both halves rest on the refusal: what has been opened has not been refused.
  have hrefused (h : ¬ isInstrument info) :=
    openUp_refused hopen hplace hfaults htells h settings log
  have hlisted : info ∈ infos.filter isInstrument ↔ isInstrument info := by
    rw [List.mem_filter, and_iff_right (List.mem_of_getElem? hi)]
  refine ⟨infos.filter isInstrument,
    (infos.filter isInstrument).map fun info => (Address.ofDevice info).toText,
    fun s hs => ?listing, fun hsucceeds => ?opened, fun h => hrefused (mt hlisted.2 h)⟩
  case listing =>
    have hs : (behaviour.enumerate s).1 = .ok infos := by
      rw [← enumerate_attachAll hattached]
      rcases List.mem_pair.1 hs with rfl | rfl
      · rfl
      · exact enumeratesAlike_openUp info settings (bus, log)
    rw [listDevices_of_ok hs, listResources_of_ok hs]
    exact ⟨rfl, rfl⟩
  case opened =>
    have hinstrument : isInstrument info := by
      by_contra h
      obtain ⟨⟨what, herror⟩, -⟩ := hrefused h
      cases hsucceeds.symm.trans herror
    have hmem := hlisted.2 hinstrument
    exact ⟨hmem, List.mem_map_of_mem hmem⟩

/-- A device of vendor `1334` whose interface is of a class of its own, a mass storage that has not been
configured, and an instrument that has been attached with a list of interfaces, and fails to be configured. -/
def foreignDevices : List (DeviceInfo × ScriptedDevice) :=
  let own : Interface := { instrumentInterface 0 0 false with classCode := 0xFF, subclass := 0 }
  [(⟨0x1334, 1, none, "", 0, []⟩, .ofConfigurations [⟨1, [own]⟩]),
    (⟨0x0781, 0x5567, none, "", 0, []⟩,
      { ScriptedDevice.ofConfigurations [⟨1, [⟨0, 0, 8, 6, 80, []⟩]⟩] with active := none }),
    (⟨0x0957, 1, none, "usb", 7, [⟨0, 0xFE, 3, 0⟩]⟩,
      { ScriptedDevice.plain with faults := [(.setConfiguration, .disconnected)] })]

/-- The first of them is opened and listed. The second is not listed, and refused after its configuration has
been set. -/
theorem listed_of_openUp_foreign :
    let own : DeviceInfo := ⟨0x1334, 1, none, "mock", 1, [⟨0, 0xFF, 0, 0⟩]⟩
    let storage : DeviceInfo := ⟨0x0781, 0x5567, none, "mock", 2, [⟨0, 8, 6, 80⟩]⟩
    let other : DeviceInfo := ⟨0x0957, 1, none, "usb", 7, [⟨0, 0xFE, 3, 0⟩]⟩
    ∃ bus, attachAll {} foreignDevices = some ([own, storage, other], bus) ∧
      let made (info : DeviceInfo) :=
        openUp behaviour.recorded ⟨{ resource := .attached info, settings := {} }, (bus, [])⟩
      (∃ listed, (listDevices behaviour bus).1 = .ok listed ∧ own ∈ listed ∧ storage ∉ listed) ∧
        (made own).1 = .ok () ∧ ∃ what, (made storage).1 = .error (.notSupported what) := by
  intro own storage other
  obtain ⟨bus, hattached⟩ : ∃ bus, attachAll {} foreignDevices = some ([own, storage, other], bus) :=
    ⟨_, rfl⟩
  refine ⟨bus, hattached, ?_⟩
  intro made
  have hdistinct : [own, storage, other].Pairwise fun a b => ¬ a.sameLocation b := by decide
  have hconfigurable : ∀ entry ∈ foreignDevices.take 2, entry.2.Configurable := by
    simp [foreignDevices, ScriptedDevice.Configurable, ScriptedDevice.ofConfigurations]
  have hok : (made own).1 = .ok () := by
    cases hattached
    rfl
  obtain ⟨listed, _, hlists, hopened, -⟩ := listed_of_openUp hattached hdistinct (i := 0) rfl rfl
    (hconfigurable _ (by simp [foreignDevices])) rfl {} []
  obtain ⟨listed', _, hlists', -, hrefused⟩ := listed_of_openUp hattached hdistinct (i := 1) rfl rfl
    (hconfigurable _ (by simp [foreignDevices])) rfl {} []
  have hlisted := (hlists bus List.mem_cons_self).1
  obtain rfl : listed = listed' := Except.ok.inj (hlisted.symm.trans (hlists' bus List.mem_cons_self).1)
  have hleft : storage ∉ listed := by
    have honly : (listDevices behaviour bus).1 = .ok [own, other] := by
      cases hattached
      rfl
    obtain rfl : [own, other] = listed := Except.ok.inj (honly.symm.trans hlisted)
    decide
  exact ⟨⟨listed, hlisted, (hopened hok).1, hleft⟩, hok, (hrefused hleft).1⟩

end Session

end Benchtop
