import Benchtop.Proofs.Scripted.Custody
import Benchtop.Proofs.Session.Run

/-!
# No claim is leaked and no driver is lost

A session on a bus of scripted devices either has no device, and then custody is what it was before
(`Free`), or it has one, claimed for its link, and the link knows whether the operating system's
driver has to be put back (`Held`). Opening leads from the one to the other or leaves custody as it is,
wherever it fails (`ensures_establish`); handing back leads back (`free_handBack`); everything else an
open session does leaves custody alone.

Main statement: this holds after every run of operations (`custody_run`).
-/

namespace Benchtop

open Usb

namespace ScriptedBus

variable {place : Nat} {initial : List (Option UInt8 × Bool)}

/-! ## Custody -/

/-- No device is in other hands than it was. -/
structure Free (initial : List (Option UInt8 × Bool)) (bus : ScriptedBus) : Prop where
  detachable : bus.Detachable
  custody_eq : bus.custody = initial

/-- A device is without its driver, if it had one, and in nobody's hands. -/
structure Detached (initial : List (Option UInt8 × Bool)) (place : Nat) (detached : Bool)
    (bus : ScriptedBus) : Prop where
  detachable : bus.Detachable
  getElem?_eq : initial[place]? = some (none, detached)
  custody_eq : bus.custody = initial.set place (none, false)

/-- A device is claimed on an interface, and `detached` says whether it had a driver. All others are
in the hands they were in. -/
structure Held (initial : List (Option UInt8 × Bool)) (place : Nat) (interface : UInt8)
    (detached : Bool) (bus : ScriptedBus) : Prop where
  detachable : bus.Detachable
  getElem?_eq : initial[place]? = some (none, detached)
  custody_eq : bus.custody = initial.set place (some interface, false)

/-- Custody is the same. -/
structure Keeps (bus bus' : ScriptedBus) : Prop where
  detachable : bus.Detachable → bus'.Detachable
  custody_eq : bus'.custody = bus.custody

instance : Std.Refl Keeps where
  refl _ := ⟨id, rfl⟩

instance : IsTrans ScriptedBus Keeps where
  trans _ _ _ h h' := ⟨h'.detachable ∘ h.detachable, h'.custody_eq.trans h.custody_eq⟩

theorem Free.of_keeps {bus bus' : ScriptedBus} (hk : Keeps bus bus') (h : Free initial bus) :
    Free initial bus' :=
  ⟨hk.detachable h.detachable, hk.custody_eq.trans h.custody_eq⟩

theorem Held.of_keeps {interface : UInt8} {detached : Bool} {bus bus' : ScriptedBus}
    (hk : Keeps bus bus') (h : Held initial place interface detached bus) :
    Held initial place interface detached bus' :=
  ⟨hk.detachable h.detachable, h.getElem?_eq, hk.custody_eq.trans h.custody_eq⟩

theorem keeps_perform {c : Call} (hc : ∀ d : ScriptedDevice, (d.perform c).2.custody = d.custody)
    (bus : ScriptedBus) : Keeps bus ((device place).perform c bus).2 :=
  ⟨fun h => h.perform c, custody_perform_eq hc⟩

/-- Traffic leaves custody alone. -/
theorem keeps_of_traffic {bus bus' : ScriptedBus} (h : Link.Traffic (device place) bus bus') :
    Keeps bus bus' := by
  induction h with
  | refl => exact refl_of Keeps _
  | tail _ hstep ih =>
    obtain ⟨c, hc, rfl⟩ := hstep
    exact trans_of Keeps ih (keeps_perform (ScriptedDevice.custody_perform_of_isTraffic hc) _)

/-! ## Handing back -/

/-- What was detached is put back where it was. -/
theorem Detached.free {detached : Bool} {bus : ScriptedBus}
    (h : Detached initial place detached bus) (interface : UInt8) :
    Free initial
      (if detached then ((device place).perform (.attachDriver interface) bus).2 else bus) := by
  obtain ⟨hlt, -⟩ := List.getElem?_eq_some_iff.1 h.getElem?_eq
  have hplace : bus.custody[place]? = some (none, false) := by
    rw [h.custody_eq, List.getElem?_set_self hlt]
  cases detached with
  | false => exact ⟨h.detachable, by rw [if_neg (by decide), h.custody_eq,
      set_of_getElem? h.getElem?_eq]⟩
  | true =>
    refine ⟨h.detachable.perform _, ?_⟩
    rw [if_pos rfl, custody_attachDriver hplace, h.custody_eq, List.set_set,
      set_of_getElem? h.getElem?_eq]

/-- Handing back frees the device that was held. -/
theorem free_handBack {c : Connection ScriptedBus}
    (h : Held initial place c.link.interface c.link.driverDetached c.device) :
    Free initial (Link.handBack (device place) c).2.device := by
  obtain ⟨c', hm, hb⟩ := Link.exists_moves_of_handBack (device place) c
  have hheld := h.of_keeps (keeps_of_traffic hm.traffic)
  obtain ⟨hlt, -⟩ := List.getElem?_eq_some_iff.1 hheld.getElem?_eq
  have hplace : c'.device.custody[place]? = some (some c.link.interface, false) := by
    rw [hheld.custody_eq, List.getElem?_set_self hlt]
  have hreleased : Detached initial place c.link.driverDetached
      ((device place).perform (.release c.link.interface) c'.device).2 :=
    ⟨hheld.detachable.perform _, hheld.getElem?_eq, by
      rw [custody_release hplace, hheld.custody_eq, List.set_set]⟩
  rw [hb]
  exact hreleased.free c.link.interface

/-! ## Opening -/

theorem keeps_chooseConfiguration (force : Bool) :
    Respects Keeps (Link.chooseConfiguration (device place) force) := by
  refine Link.respects_chooseConfiguration (fun value => ?_) force
  exact keeps_perform (ScriptedDevice.custody_perform_setConfiguration value)

/-- A driver is detached, or all is left as it is. -/
theorem ensures_detachDriver (hfree : ∀ x ∈ initial, x.1 = none) (interface : UInt8) :
    Ensures (Free initial) ((device place).call (.detachDriver interface))
      (Detached initial place) (fun _ => Free initial) := by
  intro bus h
  have hd : ((device place).perform (.detachDriver interface) bus).2.Detachable :=
    h.detachable.perform _
  have hcases := @detachDriver_cases place bus h.detachable interface
  unfold Device.call
  generalize (device place).perform (.detachDriver interface) bus = called at *
  rcases hcases with ⟨claimed, active, hanswer, hplace, hcustody⟩ | ⟨e, rfl⟩
  · rcases called with ⟨answer, bus'⟩
    obtain rfl : answer = .ok active := hanswer
    rw [h.custody_eq] at hplace hcustody
    obtain rfl : claimed = none := hfree _ (List.mem_of_getElem? hplace)
    exact ⟨hd, hplace, hcustody⟩
  · exact h

/-- An interface is claimed, or its driver is put back. -/
theorem ensures_claim (interface : Interface) (detached : Bool) :
    Ensures (Detached initial place detached) (Link.claim (device place) interface detached)
      (fun _ => Held initial place interface.number detached) (fun _ => Free initial) := by
  intro bus h
  have hd : ((device place).perform (.claim interface.number interface.alternate) bus).2.Detachable :=
    h.detachable.perform _
  have hclaim := @claim_cases place bus interface.number interface.alternate
  unfold Link.claim
  generalize (device place).perform (.claim interface.number interface.alternate) bus = claimed at *
  rcases claimed with ⟨answer, bus'⟩
  rcases hclaim with ⟨rfl, hcustody⟩ | ⟨⟨e, rfl⟩, hcustody⟩
  · refine ⟨hd, h.getElem?_eq, ?_⟩
    rw [hcustody, h.custody_eq, List.set_set]
  · exact Detached.free ⟨hd, h.getElem?_eq, hcustody.trans h.custody_eq⟩ interface.number

/-- A claimed interface is settled, or it is handed back. -/
theorem ensures_settle (link : Link) (usb488 lockout : Bool) :
    Ensures (Held initial place link.interface link.driverDetached)
      (Link.settle (device place) link usb488 lockout)
      (fun link => Held initial place link.interface link.driverDetached)
      (fun _ => Free initial) := by
  intro bus h
  obtain ⟨c, hc, hs⟩ := Link.exists_passes_of_settle (device place) link usb488 lockout bus
  have hheld : Held initial place c.link.interface c.link.driverDetached c.device := by
    rw [hc.sameClaim.interface_eq, hc.sameClaim.driverDetached_eq]
    exact h.of_keeps (keeps_of_traffic hc.traffic)
  rcases hs with hs | ⟨e, hs⟩
  · rw [hs]
    exact hheld
  · rw [hs]
    exact free_handBack hheld

/-- A link is made of a device that is held for it, or all is left as it was, wherever that
failed. -/
theorem ensures_establish (hfree : ∀ x ∈ initial, x.1 = none) (info : DeviceInfo)
    (settings : Settings) :
    Ensures (Free initial) (Link.establish (device place) info settings)
      (fun link => Held initial place link.interface link.driverDetached)
      (fun _ => Free initial) := by
  unfold Link.establish
  refine Ensures.bind ((keeps_chooseConfiguration _).ensures fun _ _ => Free.of_keeps) fun _ => ?_
  refine Ensures.bind (ensures_ofExcept _) fun interface => ?_
  refine Ensures.bind (ensures_ofExcept _) fun endpoints => ?_
  refine Ensures.bind (ensures_detachDriver hfree interface.number) fun detached => ?_
  refine Ensures.bind (ensures_claim interface detached) fun _ => ?_
  exact ensures_settle (Link.fresh info settings interface endpoints detached) _ _

end ScriptedBus

namespace Session

open ScriptedBus

variable {initial : List (Option UInt8 × Bool)}

/-! ## Runs -/

theorem keeps_resolve (resource : Resource) : Respects Keeps (resolve behaviour resource) := by
  refine respects_resolve (fun bus => ?_) resource
  unfold behaviour
  dsimp only
  split <;> exact ⟨id, rfl⟩

theorem keeps_openDevice (info : DeviceInfo) (bus : ScriptedBus) :
    Keeps bus (behaviour.openDevice info bus).2 := by
  unfold behaviour
  dsimp only
  split <;> exact ⟨id, rfl⟩

/-- A device is opened and held for its link, or all is left as it was. -/
theorem ensures_openLink (hfree : ∀ x ∈ initial, x.1 = none) (info : DeviceInfo)
    (settings : Settings) :
    Ensures (Free initial) (openLink behaviour info settings)
      (fun opened => Held initial opened.handle opened.link.interface opened.link.driverDetached)
      (fun _ => Free initial) := by
  refine ensures_openLink_of (fun bus h => ?_) fun handle => ensures_establish hfree info settings
  have hopened := h.of_keeps (keeps_openDevice info bus)
  generalize behaviour.openDevice info bus = found at *
  rcases found with ⟨e | handle, bus⟩ <;> exact hopened

/-- A closed session has no device, and an open one holds the device of its link. -/
def Safe (initial : List (Option UInt8 × Bool)) (b : Bench ScriptedBus) : Prop :=
  match b.session.opened with
  | none => Free initial b.bus
  | some opened => Held initial opened.handle opened.link.interface opened.link.driverDetached b.bus

theorem lasts_custody (hfree : ∀ x ∈ initial, x.1 = none) (settings : Settings) :
    Lasts behaviour settings (Free initial) fun opened =>
      Held initial opened.handle opened.link.interface opened.link.driverDetached where
  resolve resource bus := Free.of_keeps (keeps_resolve resource bus)
  openLink info _ := ensures_openLink hfree info _
  setTimeout h _ := h
  operate {opened bus c} h hm := by
    have hclaim : opened.link.SameClaim c.link := hm.sameOpening.sameClaim
    dsimp only
    rw [hclaim.interface_eq, hclaim.driverDetached_eq]
    exact h.of_keeps (keeps_of_traffic hm.traffic)
  close {opened bus} h := @free_handBack opened.handle initial ⟨opened.link, bus⟩ h

theorem safe_run (hfree : ∀ x ∈ initial, x.1 = none) (operations : List Operation)
    {b : Bench ScriptedBus} (h : Safe initial b) :
    Safe initial (run behaviour operations b).2 :=
  ((lasts_custody hfree b.session.settings).during_run operations
    ⟨⟨b.session.settings.timeoutMs, rfl⟩, h⟩).holds

/-- After any operations on a bus whose devices nobody had claimed: a closed session has left every
device as it was, unclaimed and with its driver; an open one has claimed the device that it opened, on
the interface of its link and without the driver, knows whether there was one, and has left all others
as they were. -/
theorem custody_run {start : ScriptedBus}
    (hstart : ∀ entry ∈ start.devices, entry.2.claimed = none ∧ entry.2.Detachable)
    (resource : Resource) (settings : Settings) (operations : List Operation) :
    let b := (run behaviour operations ⟨{ resource, settings }, start⟩).2
    (b.session.opened = none → b.bus.custody = start.custody) ∧
      ∀ opened, b.session.opened = some opened →
        start.custody[opened.handle]? = some (none, opened.link.driverDetached) ∧
          b.bus.custody =
            start.custody.set opened.handle (some opened.link.interface, false) := by
  intro b
  have hfree : ∀ x ∈ start.custody, x.1 = none := by
    intro x hx
    obtain ⟨entry, he, rfl⟩ := List.mem_map.1 hx
    exact (hstart entry he).1
  have hsafe : Safe start.custody b :=
    safe_run hfree operations ⟨fun entry he => (hstart entry he).2, rfl⟩
  unfold Safe at hsafe
  constructor
  · intro ho
    rw [ho] at hsafe
    exact hsafe.custody_eq
  · intro opened ho
    rw [ho] at hsafe
    exact ⟨hsafe.getElem?_eq, hsafe.custody_eq⟩

/-- Two instruments, the second with a driver. -/
def driverBus : ScriptedBus where
  devices :=
    [(⟨0x1334, 1, none, "mock", 1, []⟩, .plain),
      (⟨0x0957, 2, none, "mock", 2, []⟩, { ScriptedDevice.plain with driverActive := true })]

/-- A run on the second of these instruments. -/
def runDriver (operations : List Operation) : Bench ScriptedBus :=
  (run behaviour operations
    ⟨{ resource := .attached ⟨0x0957, 2, none, "mock", 2, []⟩, settings := {} }, driverBus⟩).2

/-- The driver is gone while the session is open, and back when it has been closed. -/
theorem custody_run_driverBus :
    ((runDriver [.openUp, .clear]).session.isOpen = true ∧
      (runDriver [.openUp, .clear]).bus.custody = [(none, false), (some 0, false)]) ∧
    (runDriver [.openUp, .clear, .close]).session.isOpen = false ∧
      (runDriver [.openUp, .clear, .close]).bus.custody = [(none, false), (none, true)] := by
  have hstart : ∀ entry ∈ driverBus.devices, entry.2.claimed = none ∧ entry.2.Detachable := by
    simp [driverBus, ScriptedDevice.plain, ScriptedDevice.withInterface,
      ScriptedDevice.ofConfigurations, ScriptedDevice.Detachable]
  have h := custody_run hstart (.attached ⟨0x0957, 2, none, "mock", 2, []⟩) {}
  have hcustody : driverBus.custody = [(none, false), (none, true)] := rfl
  have hopened : (runDriver [.openUp, .clear]).session.opened.map
      (fun opened => (opened.handle, opened.link.interface)) = some (1, 0) := by decide +kernel
  have hclosed : (runDriver [.openUp, .clear, .close]).session.opened = none := by decide +kernel
  unfold runDriver at *
  obtain ⟨opened, ho, he⟩ := Option.map_eq_some_iff.1 hopened
  obtain ⟨hhandle, hinterface⟩ := Prod.mk.inj he
  have hheld := ((h [.openUp, .clear]).2 opened ho).2
  have hfree := (h [.openUp, .clear, .close]).1 hclosed
  rw [hcustody] at hheld hfree
  rw [hhandle, hinterface] at hheld
  refine ⟨⟨?_, hheld⟩, ?_, hfree⟩
  · rw [isOpen, ho]
    rfl
  · rw [isOpen, hclosed]
    rfl

end Session

end Benchtop
