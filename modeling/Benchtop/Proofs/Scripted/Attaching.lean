import Benchtop.Scripted.Bus

/-!
# Attached devices

What a bus of scripted devices tells of a device that has been attached to it. A location that is missing
is made of the number of devices that are on the bus already, one added to it in eight bits. So the addresses
of the first 255 devices are different, each device is opened by its own description, and the device after
them has no address.

Main statement: devices without locations of their own can all be attached if and only if there are at most
255, and they are told apart then (`attachAll_locations`). The last of 256 is not attached
(`attachAll_eq_none`).
-/

namespace Benchtop

open Usb Scripted

/-- What enumeration tells of the interfaces that a device describes. -/
def ScriptedDevice.summaries (d : ScriptedDevice) : List InterfaceClass :=
  d.configurations.flatMap fun configuration => configuration.interfaces.map Interface.summary

namespace ScriptedBus

/-! ## Opening a device by its description -/

/-- A device is found as the first whose description is at the location. -/
theorem find_eq_ok {bus : ScriptedBus} {info : DeviceInfo} {place : Nat}
    (h : (bus.devices.map (·.1)).findIdx? (·.sameLocation info) = some place) :
    bus.find info = .ok place := by
  rw [List.findIdx?_map] at h
  unfold find
  split
  · next found hfound =>
    cases hfound.symm.trans h
    rfl
  · next hnone => cases hnone.symm.trans h

/-- A device of a bus on which no two are at the same location is found by its description. -/
theorem find_of_pairwise {bus : ScriptedBus} {place : Nat} {info : DeviceInfo}
    (h : (bus.devices.map (·.1)).Pairwise fun a b => ¬ a.sameLocation b)
    (hinfo : (bus.devices.map (·.1))[place]? = some info) : bus.find info = .ok place := by
  obtain ⟨hlt, hget⟩ := List.getElem?_eq_some_iff.1 hinfo
  refine find_eq_ok (List.findIdx?_eq_some_iff_getElem.2 ⟨hlt, ?_, fun j hj => ?_⟩)
  · rw [hget]
    simp [DeviceInfo.sameLocation]
  · have hdistinct := List.pairwise_iff_getElem.1 h j place (Nat.lt_trans hj hlt) hlt hj
    rwa [hget] at hdistinct

/-- A bus without faults opens the first device at the location. -/
theorem openDevice_of_nil {bus : ScriptedBus} (h : bus.openFaults = []) (info : DeviceInfo) :
    behaviour.openDevice info bus = (bus.find info, bus) := by
  simp only [behaviour, h]

/-! ## One device -/

section

variable {count : Nat} {info told : DeviceInfo} {d : ScriptedDevice}

theorem toNat_nextAddress {address : UInt8} (h : nextAddress count = some address) :
    address.toNat = count % 256 + 1 := by
  unfold nextAddress at h
  dsimp only at h
  split at h
  · cases h
  · next hroom =>
    rw [← Option.some.inj h]
    rw [← UInt8.toNat_inj, UInt8.toNat_ofNat'] at hroom
    have h255 : (255 : UInt8).toNat = 255 := rfl
    have h1 : (1 : UInt8).toNat = 1 := rfl
    rw [UInt8.toNat_add, UInt8.toNat_ofNat', h1]
    omega

/-- One cannot be added to eight bits that are all set. -/
theorem isSome_nextAddress_iff : (nextAddress count).isSome ↔ count % 256 ≠ 255 := by
  have hfull : UInt8.ofNat count = 255 ↔ count % 256 = 255 := by
    rw [← UInt8.toNat_inj, UInt8.toNat_ofNat']
    rfl
  simp [nextAddress, hfull]

/-- A list of interfaces that is missing is taken from the descriptors. -/
theorem interfaces_complete (h : info.interfaces = []) (htold : complete count info d = some told) :
    told.interfaces = d.summaries := by
  obtain ⟨located, hlocated, hgiven⟩ := Option.bind_eq_some_iff.1 htold
  obtain rfl := Option.some.inj hgiven
  have hnone : located.interfaces = [] := by
    unfold locate at hlocated
    split at hlocated
    · obtain ⟨address, -, rfl⟩ := Option.map_eq_some_iff.1 hlocated
      exact h
    · exact Option.some.inj hlocated ▸ h
  simp [hnone, ScriptedDevice.summaries]

/-- A location that is missing is made of the number of devices. -/
theorem address_complete (h : info.busId.isEmpty) (htold : complete count info d = some told) :
    nextAddress count = some told.address := by
  obtain ⟨located, hlocated, hgiven⟩ := Option.bind_eq_some_iff.1 htold
  obtain rfl := Option.some.inj hgiven
  rw [locate, if_pos h] at hlocated
  obtain ⟨address, haddress, rfl⟩ := Option.map_eq_some_iff.1 hlocated
  dsimp only
  split <;> exact haddress

/-- A description without a location can be completed if and only if there is an address. -/
theorem isSome_complete_iff (h : info.busId.isEmpty) :
    (complete count info d).isSome ↔ count % 256 ≠ 255 := by
  rw [← isSome_nextAddress_iff, complete, locate, if_pos h]
  cases nextAddress count <;> simp

end

/-! ## One device after the other -/

section

variable {bus bus' : ScriptedBus} {devices : List (DeviceInfo × ScriptedDevice)} {infos : List DeviceInfo}

theorem attachAll_cons (bus : ScriptedBus) (info : DeviceInfo) (d : ScriptedDevice)
    (devices : List (DeviceInfo × ScriptedDevice)) :
    bus.attachAll ((info, d) :: devices) =
      (complete bus.devices.length info d).bind fun told =>
        (attachAll { bus with devices := bus.devices ++ [(told, d)] } devices).map fun made =>
          (told :: made.1, made.2) := by
  rw [attachAll, attach]
  cases complete bus.devices.length info d with
  | none => rfl
  | some told => exact Option.map_eq_bind.symm

theorem attachAll_cons_eq_some {info : DeviceInfo} {d : ScriptedDevice}
    (h : bus.attachAll ((info, d) :: devices) = some (infos, bus')) :
    ∃ told rest, complete bus.devices.length info d = some told ∧
      attachAll { bus with devices := bus.devices ++ [(told, d)] } devices = some (rest, bus') ∧
      infos = told :: rest := by
  rw [attachAll_cons] at h
  obtain ⟨told, htold, h⟩ := Option.bind_eq_some_iff.1 h
  obtain ⟨⟨rest, last⟩, hrest, h⟩ := Option.map_eq_some_iff.1 h
  cases h
  exact ⟨told, rest, htold, hrest, rfl⟩

theorem length_attachAll (h : bus.attachAll devices = some (infos, bus')) :
    infos.length = devices.length := by
  induction devices generalizing bus infos with
  | nil =>
    cases h
    rfl
  | cons entry devices ih =>
    obtain ⟨told, rest, -, hrest, rfl⟩ := attachAll_cons_eq_some h
    rw [List.length_cons, List.length_cons, ih hrest]

/-- The devices are on the bus in the order in which they were attached, each with the description that was
given. -/
theorem bus_attachAll (h : bus.attachAll devices = some (infos, bus')) :
    bus' = { bus with devices := bus.devices ++ infos.zip (devices.map (·.2)) } := by
  induction devices generalizing bus infos with
  | nil =>
    cases h
    simp
  | cons entry devices ih =>
    obtain ⟨told, rest, -, hrest, rfl⟩ := attachAll_cons_eq_some h
    rw [ih hrest]
    simp

/-- A description that was given is the completed one of a device. -/
theorem complete_of_attachAll (h : bus.attachAll devices = some (infos, bus')) {i : Nat} {told : DeviceInfo}
    (hi : infos[i]? = some told) :
    ∃ entry, devices[i]? = some entry ∧
      complete (bus.devices.length + i) entry.1 entry.2 = some told := by
  induction devices generalizing bus infos i with
  | nil =>
    cases h
    simp at hi
  | cons entry devices ih =>
    obtain ⟨first, rest, hfirst, hrest, rfl⟩ := attachAll_cons_eq_some h
    match i with
    | 0 =>
      cases hi
      exact ⟨entry, rfl, hfirst⟩
    | i + 1 =>
      obtain ⟨entry', hentry', hcomplete⟩ := ih hrest hi
      refine ⟨entry', hentry', ?_⟩
      rwa [List.length_append, List.length_singleton, Nat.add_assoc, Nat.add_comm 1] at hcomplete

/-- Devices without locations can be attached if there is an address for each. -/
theorem isSome_attachAll_iff (hempty : ∀ entry ∈ devices, entry.1.busId.isEmpty) :
    (bus.attachAll devices).isSome ↔ ∀ i < devices.length, (bus.devices.length + i) % 256 ≠ 255 := by
  induction devices generalizing bus with
  | nil => simp [attachAll]
  | cons entry devices ih =>
    obtain ⟨hfirst, hempty⟩ := List.forall_mem_cons.1 hempty
    rw [List.length_cons, Nat.forall_lt_succ_left, Nat.add_zero,
      ← isSome_complete_iff (d := entry.2) hfirst]
    cases hcomplete : complete bus.devices.length entry.1 entry.2 with
    | none =>
      rw [attachAll_cons, hcomplete]
      simp
    | some told =>
      rw [attachAll_cons, hcomplete, Option.bind_some, Option.isSome_map, ih hempty,
        List.length_append, List.length_singleton]
      simp only [Option.isSome_some, true_and, Nat.add_assoc, Nat.add_comm 1]

/-! ## An empty bus -/

theorem scripted_attachAll (h : attachAll {} devices = some (infos, bus)) :
    bus.devices.map (·.2) = devices.map (·.2) := by
  rw [bus_attachAll h]
  exact List.map_snd_zip (by simp [length_attachAll h])

/-- A description that was given is that of a device, which is on the bus with it. -/
theorem exists_of_getElem?_attachAll (h : attachAll {} devices = some (infos, bus)) {i : Nat}
    {told : DeviceInfo} (hi : infos[i]? = some told) :
    ∃ entry, devices[i]? = some entry ∧ complete i entry.1 entry.2 = some told ∧
      bus.devices[i]? = some (told, entry.2) := by
  obtain ⟨entry, hentry, hcomplete⟩ := complete_of_attachAll h hi
  simp only [List.length_nil, Nat.zero_add] at hcomplete
  refine ⟨entry, hentry, hcomplete, ?_⟩
  rw [bus_attachAll h]
  simp [List.getElem?_zip_eq_some, hi, hentry]

theorem infos_attachAll (h : attachAll {} devices = some (infos, bus)) :
    bus.devices.map (·.1) = infos := by
  rw [bus_attachAll h]
  exact List.map_fst_zip (by simp [length_attachAll h])

theorem openFaults_attachAll (h : attachAll {} devices = some (infos, bus)) : bus.openFaults = [] := by
  rw [bus_attachAll h]

/-- Enumeration gives the descriptions that were given. -/
theorem enumerate_attachAll (h : attachAll {} devices = some (infos, bus)) :
    (behaviour.enumerate bus).1 = .ok infos := by
  rw [← infos_attachAll h, bus_attachAll h]
  rfl

/-- If no two descriptions are at the same location, each opens its own device. -/
theorem openDevice_attachAll (h : attachAll {} devices = some (infos, bus))
    (hdistinct : infos.Pairwise fun a b => ¬ a.sameLocation b) {i : Nat} {told : DeviceInfo}
    (hi : infos[i]? = some told) : behaviour.openDevice told bus = (.ok i, bus) := by
  have hinfos := infos_attachAll h
  rw [openDevice_of_nil (openFaults_attachAll h),
    find_of_pairwise (by rwa [hinfos]) ((congrArg (·[i]?) hinfos).trans hi)]

/-- The addresses of devices without locations of their own are different. -/
theorem pairwise_attachAll (hempty : ∀ entry ∈ devices, entry.1.busId.isEmpty)
    (hcount : devices.length ≤ 255) (h : attachAll {} devices = some (infos, bus)) :
    infos.Pairwise fun a b => ¬ a.sameLocation b := by
  rw [List.pairwise_iff_getElem]
  intro i j hi hj hij hsame
  have hlength := length_attachAll h
  have haddress (k : Nat) (hk : k < infos.length) : infos[k].address.toNat = k % 256 + 1 := by
    obtain ⟨entry, hentry, hcomplete, -⟩ :=
      exists_of_getElem?_attachAll h (List.getElem?_eq_getElem hk)
    exact toNat_nextAddress (address_complete (hempty entry (List.mem_of_getElem? hentry)) hcomplete)
  have heq : infos[i].address = infos[j].address := by
    simp only [DeviceInfo.sameLocation, Bool.and_eq_true, beq_iff_eq] at hsame
    exact hsame.2
  have hi' := haddress i hi
  have hj' := haddress j hj
  rw [heq] at hi'
  omega

theorem isSome_attachAll_empty_iff (hempty : ∀ entry ∈ devices, entry.1.busId.isEmpty) :
    (attachAll {} devices).isSome ↔ devices.length ≤ 255 := by
  rw [isSome_attachAll_iff hempty]
  simp only [List.length_nil, Nat.zero_add]
  constructor
  · exact fun h => Nat.le_of_not_lt fun hcount => h 255 hcount rfl
  · intro hcount i hi
    omega

end

/-- Devices are attached one after the other, none with a location of its own. This succeeds if and only if
there are at most 255. Then each device is on the bus in its place, with the description that its attachment
has given. No two of these descriptions are at the same location, and each of them opens its own device. -/
theorem attachAll_locations {devices : List (DeviceInfo × ScriptedDevice)}
    (hempty : ∀ entry ∈ devices, entry.1.busId.isEmpty) :
    ((attachAll {} devices).isSome ↔ devices.length ≤ 255) ∧
      ∀ infos bus, attachAll {} devices = some (infos, bus) →
        bus.devices.map (·.1) = infos ∧ bus.devices.map (·.2) = devices.map (·.2) ∧
          infos.Pairwise (fun a b => ¬ a.sameLocation b) ∧
          ∀ i info, infos[i]? = some info → behaviour.openDevice info bus = (.ok i, bus) := by
  refine ⟨isSome_attachAll_empty_iff hempty, fun infos bus h => ?_⟩
  have hcount : devices.length ≤ 255 := (isSome_attachAll_empty_iff hempty).1 (by rw [h]; rfl)
  have hdistinct := pairwise_attachAll hempty hcount h
  exact ⟨infos_attachAll h, scripted_attachAll h, hdistinct, fun _ _ => openDevice_attachAll h hdistinct⟩

/-- As many plain instruments of one make, without locations of their own. -/
def instruments (count : Nat) : List (DeviceInfo × ScriptedDevice) :=
  List.replicate count (⟨0x0957, 1, none, "", 0, []⟩, .plain)

theorem isEmpty_busId_instruments (count : Nat) :
    ∀ entry ∈ instruments count, entry.1.busId.isEmpty := by
  intro entry hentry
  rw [List.eq_of_mem_replicate hentry]
  rfl

/-- All of 255 instruments are attached, and the last of them is opened by its description. -/
theorem attachAll_locations_full :
    ∃ infos bus last, attachAll {} (instruments 255) = some (infos, bus) ∧ infos[254]? = some last ∧
      behaviour.openDevice last bus = (.ok 254, bus) := by
  obtain ⟨hattached, hopens⟩ := attachAll_locations (isEmpty_busId_instruments 255)
  have hcount : (instruments 255).length = 255 := List.length_replicate
  obtain ⟨⟨infos, bus⟩, h⟩ := Option.isSome_iff_exists.1 (hattached.2 (Nat.le_of_eq hcount))
  have hlast := List.getElem?_eq_getElem (show 254 < infos.length by rw [length_attachAll h]; omega)
  exact ⟨infos, bus, _, h, hlast, (hopens infos bus h).2.2.2 254 _ hlast⟩

/-- The last of 256 instruments is not attached: there is no address for it. -/
theorem attachAll_eq_none :
    (∀ entry ∈ instruments 256, entry.1.busId.isEmpty) ∧ attachAll {} (instruments 256) = none := by
  refine ⟨isEmpty_busId_instruments 256, ?_⟩
  rw [← Option.not_isSome_iff_eq_none, isSome_attachAll_empty_iff (isEmpty_busId_instruments 256),
    instruments, List.length_replicate]
  decide

end ScriptedBus

end Benchtop
