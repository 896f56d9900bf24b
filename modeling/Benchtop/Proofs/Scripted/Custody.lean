import Benchtop.Proofs.Link.Moves
import Benchtop.Proofs.Scripted.Calls
import Benchtop.Scripted.Bus

/-!
# Who has a scripted device

The custody of a device is the interface on which it is claimed, if it is, and whether the operating
system's driver has it. Only four calls change it, each in its own way; all other calls of a device
leave it as it is (`custody_perform_of_isTraffic`), whatever they answer.

A fault takes effect and then reports a failure. For the detachment of a driver that is fatal: nobody
learns that the driver is gone. `Detachable` excludes these faults, which no script of a device
holds.
-/

namespace Benchtop

open Usb Scripted

/-- Queued values under other keys stay. -/
theorem mem_of_takeFirst {κ α : Type} [DecidableEq κ] {key : κ} {queue rest : List (κ × α)} {a : α}
    (h : takeFirst key queue = some (a, rest)) {entry : κ × α} (he : entry ∈ rest) :
    entry ∈ queue := by
  induction queue generalizing rest with
  | nil => simp [takeFirst] at h
  | cons first queue ih =>
    obtain ⟨k, b⟩ := first
    by_cases hk : k = key
    · simp only [takeFirst, if_pos hk, Option.some.injEq, Prod.mk.injEq] at h
      exact List.mem_cons_of_mem _ (h.2 ▸ he)
    · simp only [takeFirst, if_neg hk, Option.map_eq_some_iff] at h
      obtain ⟨⟨found, rest'⟩, h', hrest⟩ := h
      obtain ⟨rfl, rfl⟩ := Prod.mk.injEq .. ▸ hrest
      rcases List.mem_cons.1 he with rfl | he
      · exact List.mem_cons_self
      · exact List.mem_cons_of_mem _ (ih h' he)

theorem takeFirst_eq_none {κ α : Type} [DecidableEq κ] {key : κ} {queue : List (κ × α)}
    (h : ∀ entry ∈ queue, entry.1 ≠ key) : takeFirst key queue = none := by
  induction queue with
  | nil => rfl
  | cons first queue ih =>
    rw [takeFirst, if_neg (h first List.mem_cons_self),
      ih fun entry he => h entry (List.mem_cons_of_mem _ he)]
    rfl

namespace ScriptedDevice

/-! ## Calls of a device -/

/-- The interface on which a device is claimed, and whether the operating system's driver has it. -/
def custody (d : ScriptedDevice) : Option UInt8 × Bool := (d.claimed, d.driverActive)

/-- No detachment of a driver is going to report a failure. -/
def Detachable (d : ScriptedDevice) : Prop := ∀ fault ∈ d.faults, fault.1 ≠ .detachDriver

/-- A fault changes the answer of a call and nothing else. -/
theorem custody_perform (c : Call) (d : ScriptedDevice) :
    (d.perform c).2.custody = (d.respond c).2.custody := by
  simp only [perform]
  split <;> rfl

/-- Traffic changes nothing but queues, the tag of the latest request, and the log. -/
theorem exists_respond_of_isTraffic {c : Call} (hc : c.isTraffic) (d : ScriptedDevice) :
    ∃ controlQueue bulkOutErrors bulkInQueue interruptQueue requestTag log, (d.respond c).2 =
      { d with controlQueue, bulkOutErrors, bulkInQueue, interruptQueue, requestTag, log } := by
  cases c with
  | controlIn setup length timeout =>
    obtain ⟨_, h⟩ := exists_answerControl (d.logged (.controlIn setup length timeout)) setup.request
      timeout
    rw [respond, h]
    exact ⟨_, _, _, _, _, _, rfl⟩
  | bulkOut endpoint data timeout =>
    obtain ⟨_, _, h⟩ := exists_acceptBulkOut (d.logged (.bulkOut endpoint data timeout)) data
    rw [respond, h]
    exact ⟨_, _, _, _, _, _, rfl⟩
  | bulkIn endpoint maxLength timeout =>
    obtain ⟨_, -, h⟩ := exists_nextBulkIn (d.logged (.bulkIn endpoint maxLength timeout)) timeout
    rw [respond, h]
    exact ⟨_, _, _, _, _, _, rfl⟩
  | interruptIn endpoint maxLength timeout =>
    obtain ⟨_, h⟩ := exists_nextInterrupt (d.logged (.interruptIn endpoint maxLength timeout)) timeout
    rw [respond, h]
    exact ⟨_, _, _, _, _, _, rfl⟩
  | clearHalt => exact ⟨_, _, _, _, _, _, rfl⟩
  | _ => cases hc

/-- A device does not add to its faults. -/
theorem faults_respond (c : Call) (d : ScriptedDevice) : (d.respond c).2.faults = d.faults := by
  by_cases hc : c.isTraffic
  · obtain ⟨_, _, _, _, _, _, hr⟩ := d.exists_respond_of_isTraffic hc
    rw [hr]
  · cases c with
    | setConfiguration | attachDriver | release => rfl
    | detachDriver =>
      simp only [respond]
      split <;> rfl
    | claim interface alternate =>
      obtain ⟨_, _, h⟩ := exists_acceptClaim (d.logged (.claim interface alternate)) interface
      rw [respond, h]
      rfl
    | _ => exact absurd rfl hc

theorem Detachable.perform {d : ScriptedDevice} (h : d.Detachable) (c : Call) :
    (d.perform c).2.Detachable := by
  intro fault hf
  simp only [ScriptedDevice.perform] at hf
  split at hf
  next e rest hq =>
    obtain ⟨call, -, hq⟩ := Option.bind_eq_some_iff.1 hq
    rw [faults_respond] at hq
    exact h fault (mem_of_takeFirst hq hf)
  next => exact h fault (faults_respond c d ▸ hf)

/-- Traffic leaves custody as it is. -/
theorem custody_perform_of_isTraffic {c : Call} (hc : c.isTraffic) (d : ScriptedDevice) :
    (d.perform c).2.custody = d.custody := by
  obtain ⟨_, _, _, _, _, _, hr⟩ := d.exists_respond_of_isTraffic hc
  rw [custody_perform, hr]
  rfl

theorem custody_perform_setConfiguration (value : UInt8) (d : ScriptedDevice) :
    (d.perform (.setConfiguration value)).2.custody = d.custody :=
  d.custody_perform _

theorem custody_perform_attachDriver (interface : UInt8) (d : ScriptedDevice) :
    (d.perform (.attachDriver interface)).2.custody = (d.claimed, true) :=
  d.custody_perform _

theorem custody_perform_release (interface : UInt8) (d : ScriptedDevice) :
    (d.perform (.release interface)).2.custody = (none, d.driverActive) :=
  d.custody_perform _

/-- A call that no fault is for is answered as the script says. -/
theorem perform_of_forall_ne {c : Call} {call : Faulty} (hc : Faulty.ofCall c = some call)
    {d : ScriptedDevice} (h : ∀ fault ∈ d.faults, fault.1 ≠ call) : d.perform c = d.respond c := by
  have hnone : takeFirst call (d.respond c).2.faults = none := by
    rw [faults_respond]
    exact takeFirst_eq_none h
  simp only [ScriptedDevice.perform, hc, Option.bind_some, hnone]

/-- A detachment tells whether the driver had the device. -/
theorem perform_detachDriver {d : ScriptedDevice} (h : d.Detachable) (interface : UInt8) :
    (d.perform (.detachDriver interface)).1 = .ok d.driverActive ∧
      (d.perform (.detachDriver interface)).2.custody = (d.claimed, false) := by
  rw [perform_of_forall_ne rfl h]
  simp only [respond]
  split
  · next hd => exact ⟨by rw [hd], rfl⟩
  · next hd =>
    have hd : d.driverActive = false := by simpa using hd
    exact ⟨by rw [hd], by rw [custody, hd]⟩

/-- A claim succeeds only if the driver does not have the device. -/
theorem perform_claim (interface alternate : UInt8) (d : ScriptedDevice) :
    ((d.perform (.claim interface alternate)).1 = .ok () ∧ d.driverActive = false ∧
        (d.perform (.claim interface alternate)).2.custody = (some interface, false)) ∨
      ((∃ e, (d.perform (.claim interface alternate)).1 = .error e) ∧
        (d.perform (.claim interface alternate)).2.custody = d.custody) := by
  have hperform : d.perform (.claim interface alternate) =
      (d.logged (.claim interface alternate)).acceptClaim interface := rfl
  rw [hperform, acceptClaim]
  split
  · exact .inr ⟨⟨_, rfl⟩, rfl⟩
  · split
    · exact .inr ⟨⟨_, rfl⟩, rfl⟩
    · next hd =>
      have hd : d.driverActive = false := by simpa [logged] using hd
      exact .inl ⟨rfl, hd, by simp [custody, logged, hd]⟩

end ScriptedDevice

/-! ## Calls of a bus -/

theorem set_of_getElem? {α : Type} {l : List α} {i : Nat} {a : α} (h : l[i]? = some a) :
    l.set i a = l := by
  obtain ⟨hi, rfl⟩ := List.getElem?_eq_some_iff.1 h
  exact List.set_getElem_self hi

namespace ScriptedBus

/-- The custody of every device. -/
def custody (bus : ScriptedBus) : List (Option UInt8 × Bool) :=
  bus.devices.map fun (_, d) => d.custody

def Detachable (bus : ScriptedBus) : Prop := ∀ entry ∈ bus.devices, entry.2.Detachable

variable {place : Nat} {bus : ScriptedBus}

theorem getElem?_custody : bus.custody[place]? = bus.devices[place]?.map fun (_, d) => d.custody :=
  List.getElem?_map

theorem exists_of_getElem?_custody {claimed : Option UInt8} {active : Bool}
    (h : bus.custody[place]? = some (claimed, active)) :
    ∃ info d, bus.devices[place]? = some (info, d) ∧ d.claimed = claimed ∧
      d.driverActive = active := by
  rw [getElem?_custody] at h
  obtain ⟨⟨info, d⟩, hd, hc⟩ := Option.map_eq_some_iff.1 h
  cases hc
  exact ⟨info, d, hd, rfl, rfl⟩

/-- A call of a device that is there is a call of that device, and of no other. -/
theorem perform_device (c : Call) {info : DeviceInfo} {d : ScriptedDevice}
    (hd : bus.devices[place]? = some (info, d)) :
    ((device place).perform c bus).1 = (d.perform c).1 ∧
      ((device place).perform c bus).2.custody = bus.custody.set place (d.perform c).2.custody := by
  simp only [device, hd, custody, List.map_set, and_self]

/-- A device that is not there does nothing. -/
theorem perform_device_of_none (c : Call) (hd : bus.devices[place]? = none) :
    (device place).perform c bus = (.error .disconnected, bus) := by
  simp only [device, hd]

theorem Detachable.perform (h : bus.Detachable) (c : Call) :
    ((device place).perform c bus).2.Detachable := by
  match hd : bus.devices[place]? with
  | none =>
    rw [perform_device_of_none c hd]
    exact h
  | some (info, d) =>
    simp only [device, hd]
    intro entry he
    rcases List.mem_or_eq_of_mem_set he with he | rfl
    · exact h entry he
    · exact (h (info, d) (List.mem_of_getElem? hd)).perform c

/-- Calls that leave the custody of a device alone leave that of all devices alone. -/
theorem custody_perform_eq {c : Call}
    (hc : ∀ d : ScriptedDevice, (d.perform c).2.custody = d.custody) :
    ((device place).perform c bus).2.custody = bus.custody := by
  match hd : bus.devices[place]? with
  | none => rw [perform_device_of_none c hd]
  | some (info, d) =>
    rw [(perform_device c hd).2, hc]
    exact set_of_getElem? (by rw [getElem?_custody, hd]; rfl)

theorem custody_release {claimed : Option UInt8} {active : Bool}
    (h : bus.custody[place]? = some (claimed, active)) (interface : UInt8) :
    ((device place).perform (.release interface) bus).2.custody =
      bus.custody.set place (none, active) := by
  obtain ⟨info, d, hd, -, rfl⟩ := exists_of_getElem?_custody h
  rw [(perform_device _ hd).2, d.custody_perform_release]

theorem custody_attachDriver {claimed : Option UInt8} {active : Bool}
    (h : bus.custody[place]? = some (claimed, active)) (interface : UInt8) :
    ((device place).perform (.attachDriver interface) bus).2.custody =
      bus.custody.set place (claimed, true) := by
  obtain ⟨info, d, hd, rfl, -⟩ := exists_of_getElem?_custody h
  rw [(perform_device _ hd).2, d.custody_perform_attachDriver]

theorem detachDriver_cases (h : bus.Detachable) (interface : UInt8) :
    (∃ claimed active, ((device place).perform (.detachDriver interface) bus).1 = .ok active ∧
      bus.custody[place]? = some (claimed, active) ∧
      ((device place).perform (.detachDriver interface) bus).2.custody =
        bus.custody.set place (claimed, false)) ∨
    ∃ e, (device place).perform (.detachDriver interface) bus = (.error e, bus) := by
  match hd : bus.devices[place]? with
  | none => exact .inr ⟨_, perform_device_of_none _ hd⟩
  | some (info, d) =>
    obtain ⟨hanswer, hcustody⟩ := perform_device (.detachDriver interface) hd
    obtain ⟨hanswer', hcustody'⟩ :=
      ScriptedDevice.perform_detachDriver (h _ (List.mem_of_getElem? hd)) interface
    rw [hanswer'] at hanswer
    rw [hcustody'] at hcustody
    exact .inl ⟨d.claimed, d.driverActive, hanswer, by rw [getElem?_custody, hd]; rfl, hcustody⟩

theorem claim_cases (interface alternate : UInt8) :
    (((device place).perform (.claim interface alternate) bus).1 = .ok () ∧
      ((device place).perform (.claim interface alternate) bus).2.custody =
        bus.custody.set place (some interface, false)) ∨
    ((∃ e, ((device place).perform (.claim interface alternate) bus).1 = .error e) ∧
      ((device place).perform (.claim interface alternate) bus).2.custody = bus.custody) := by
  match hd : bus.devices[place]? with
  | none =>
    rw [perform_device_of_none _ hd]
    exact .inr ⟨⟨_, rfl⟩, rfl⟩
  | some (info, d) =>
    obtain ⟨hanswer, hcustody⟩ := perform_device (.claim interface alternate) hd
    rw [hanswer, hcustody]
    rcases d.perform_claim interface alternate with ⟨hok, -, hc⟩ | ⟨he, hc⟩
    · exact .inl ⟨hok, by rw [hc]⟩
    · refine .inr ⟨he, ?_⟩
      rw [hc]
      exact set_of_getElem? (by rw [getElem?_custody, hd]; rfl)

end ScriptedBus

end Benchtop
