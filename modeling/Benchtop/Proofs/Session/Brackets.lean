import Benchtop.Proofs.Session.Run
import Benchtop.Proofs.Trace
import Benchtop.Scripted.Bus

/-!
# Traffic in brackets

A bus that records its events keeps what a session asks of its devices. Outside of brackets that is
nothing but the choice of a configuration and a failed attempt to take an interface from its driver
(`BusEvent.isOutside`). A bracket opens when a driver has been detached, or there was none, and the
interface is claimed. If the claim fails the bracket is closed at once; otherwise there is traffic with
the one device, and then the release. At the end the driver goes back, if there was one. `Bracketed` are
the records that are made of complete brackets, and `Underway` those whose last one is still open.

Main statement: whatever the devices answer, the record of a run that ends with the session let go of is
made of complete brackets, and all the while a session is open, its bracket is the one that is open
(`bracketed_run`).
-/

namespace Benchtop

open Usb Wire

variable {σ : Type} {bus : Bus σ} {number : Nat} {interface : UInt8} {detached : Bool}

/-! ## Records -/

/-- The events outside of brackets. -/
def Usb.BusEvent.isOutside : BusEvent → Bool
  | .enumerate _ => true
  | .openDevice _ _ => true
  | .letGo _ => true
  | .call _ ⟨.setConfiguration _, _⟩ => true
  | .call _ ⟨.detachDriver _, .error _⟩ => true
  | .call _ _ => false

/-- A bracket opens: the driver has been asked for the interface, which is claimed. -/
def claiming (number : Nat) (interface alternate : UInt8) (detached : Bool)
    (claimed : Except BusError Unit) : List BusEvent :=
  [.call number ⟨.detachDriver interface, .ok detached⟩,
    .call number ⟨.claim interface alternate, claimed⟩]

/-- A bracket closes: the driver gets the interface back, if it was detached. -/
def returning (number : Nat) (interface : UInt8) (detached : Bool)
    (attached : Except BusError Unit) : List BusEvent :=
  if detached then [.call number ⟨.attachDriver interface, attached⟩] else []

/-- A record of complete brackets, and of events outside of them. -/
inductive Bracketed : List BusEvent → Prop
  | nil : Bracketed []
  | outside {log : List BusEvent} {event : BusEvent} (h : Bracketed log) (he : event.isOutside) :
    Bracketed (log ++ [event])
  | refused {log : List BusEvent} (h : Bracketed log) (number : Nat) (interface alternate : UInt8)
    (detached : Bool) (e : BusError) (attached : Except BusError Unit) :
    Bracketed (log ++ claiming number interface alternate detached (.error e) ++
      returning number interface detached attached)
  | claimed {log : List BusEvent} (h : Bracketed log) (number : Nat) (interface alternate : UInt8)
    (detached : Bool) {traffic : List Event} (ht : ∀ event ∈ traffic, event.call.isTraffic)
    (released attached : Except BusError Unit) :
    Bracketed (log ++ claiming number interface alternate detached (.ok ()) ++
      traffic.map (.call number) ++ .call number ⟨.release interface, released⟩ ::
      returning number interface detached attached)

/-- A record whose last bracket is still open. -/
structure Underway (number : Nat) (interface : UInt8) (detached : Bool) (log : List BusEvent) :
    Prop where
  exists_eq : ∃ (before : List BusEvent) (alternate : UInt8) (traffic : List Event),
    Bracketed before ∧ (∀ event ∈ traffic, event.call.isTraffic) ∧
      log = before ++ claiming number interface alternate detached (.ok ()) ++
        traffic.map (.call number)

namespace Underway

variable {log : List BusEvent}

theorem append (h : Underway number interface detached log) {events : List Event}
    (he : ∀ event ∈ events, event.call.isTraffic) :
    Underway number interface detached (log ++ events.map (.call number)) := by
  obtain ⟨before, alternate, traffic, hbefore, ht, rfl⟩ := h.exists_eq
  refine ⟨before, alternate, traffic ++ events, hbefore, fun event hm => ?_, ?_⟩
  · exact (List.mem_append.1 hm).elim (ht event) (he event)
  · rw [List.map_append, List.append_assoc _ (traffic.map _)]

theorem close (h : Underway number interface detached log)
    (released attached : Except BusError Unit) :
    Bracketed (log ++ .call number ⟨.release interface, released⟩ ::
      returning number interface detached attached) := by
  obtain ⟨before, alternate, traffic, hbefore, ht, rfl⟩ := h.exists_eq
  exact hbefore.claimed number interface alternate detached ht released attached

end Underway

/-! ## What is recorded of a link -/

namespace Link

/-- Moves are recorded as calls that the link asks. -/
theorem MovesFor.log_eq {wants : Request → Prop} {c c' : Connection (σ × List BusEvent)}
    (hm : MovesFor (bus.recorded.device number) wants c c') :
    ∃ events : List Event, (∀ event ∈ events, c.link.AsksFor wants event.call) ∧
      c'.device.2 = c.device.2 ++ events.map (.call number) := by
  obtain ⟨events, ht, hasks⟩ := hm.exists_trace
  exact ⟨events, hasks, ht.busLog_eq⟩

/-- Handing back is recorded as calls that the link asks, the release, and the return of the driver. -/
theorem log_handBack (bus : Bus σ) (number : Nat) (c : Connection (σ × List BusEvent)) :
    ∃ (events : List Event) (released attached : Except BusError Unit),
      (∀ event ∈ events, c.link.Asks event.call) ∧
      (handBack (bus.recorded.device number) c).2.device.2 =
        c.device.2 ++ events.map (.call number) ++
          .call number ⟨.release c.link.interface, released⟩ ::
            returning number c.link.interface c.link.driverDetached attached := by
  obtain ⟨c', hm, he⟩ := exists_moves_of_handBack (bus.recorded.device number) c
  obtain ⟨events, hasks, hlog⟩ := hm.log_eq
  let released := (bus.device number).perform (.release c.link.interface) c'.device.1
  let attached := (bus.device number).perform (.attachDriver c.link.interface) released.2
  refine ⟨events, released.1, attached.1, hasks, ?_⟩
  rw [he, returning, ← hlog]
  dsimp only
  cases c.link.driverDetached with
  | false => rfl
  | true =>
    rw [if_pos rfl, if_pos rfl, List.append_cons]
    rfl

theorem bracketed_handBack {c : Connection (σ × List BusEvent)}
    (h : Underway number c.link.interface c.link.driverDetached c.device.2) :
    Bracketed (handBack (bus.recorded.device number) c).2.device.2 := by
  obtain ⟨events, released, attached, hasks, hlog⟩ := log_handBack bus number c
  rw [hlog]
  exact (h.append fun event he => (hasks event he).isTraffic).close released attached

/-! ## Opening -/

theorem recorded_perform (bus : Bus σ) (number : Nat) (call : Call) (s : σ × List BusEvent) :
    (bus.recorded.device number).perform call s =
      (((bus.device number).perform call s.1).1, ((bus.device number).perform call s.1).2,
        s.2 ++ [.call number ⟨call, ((bus.device number).perform call s.1).1⟩]) :=
  rfl

theorem bracketed_chooseConfiguration (bus : Bus σ) (number : Nat) (force : Bool) :
    Respects (Preserves fun s => Bracketed s.2)
      (chooseConfiguration (bus.recorded.device number) force) := by
  refine respects_chooseConfiguration (fun value => ?_) force
  intro s h
  exact Bracketed.outside h rfl

/-- A driver is detached, or that fails outside of brackets. -/
theorem ensures_detachDriver_bracketed (bus : Bus σ) (number : Nat) (interface : UInt8) :
    Ensures (fun s => Bracketed s.2)
      ((bus.recorded.device number).call (.detachDriver interface))
      (fun detached s => ∃ before, Bracketed before ∧
        s.2 = before ++ [.call number ⟨.detachDriver interface, .ok detached⟩])
      (fun _ s => Bracketed s.2) := by
  intro s h
  rw [Device.call, recorded_perform]
  generalize (bus.device number).perform (.detachDriver interface) s.1 = called
  rcases called with ⟨e | detached, t⟩
  · exact h.outside rfl
  · exact ⟨s.2, h, rfl⟩

/-- An interface is claimed, or that fails and the bracket is closed. -/
theorem ensures_claim_bracketed (bus : Bus σ) (number : Nat) (interface : Interface)
    (detached : Bool) :
    Ensures (fun s => ∃ before, Bracketed before ∧
        s.2 = before ++ [.call number ⟨.detachDriver interface.number, .ok detached⟩])
      (claim (bus.recorded.device number) interface detached)
      (fun _ s => Underway number interface.number detached s.2)
      (fun _ s => Bracketed s.2) := by
  rintro ⟨s, log⟩ ⟨before, hbefore, rfl⟩
  rw [claim, recorded_perform]
  generalize (bus.device number).perform (.claim interface.number interface.alternate) s = claimed
  rcases claimed with ⟨e | _, t⟩
  · dsimp only
    have hrefused := hbefore.refused number interface.number interface.alternate detached e
    cases detached with
    | false => simpa [returning, claiming] using hrefused (.ok ())
    | true =>
      rw [if_pos rfl, recorded_perform]
      simpa [returning, claiming] using hrefused _
  · refine ⟨before, interface.alternate, [], hbefore, nofun, ?_⟩
    simp [claiming]

/-- A claimed interface is settled, or handed back. -/
theorem ensures_settle_bracketed (bus : Bus σ) (number : Nat) (link : Link)
    (usb488 lockout : Bool) :
    Ensures (fun s => Underway number link.interface link.driverDetached s.2)
      (settle (bus.recorded.device number) link usb488 lockout)
      (fun link s => Underway number link.interface link.driverDetached s.2)
      (fun _ s => Bracketed s.2) := by
  intro s h
  have hasked : Underway number link.interface link.driverDetached
      ((bus.recorded.device number).perform link.capabilitiesCall s).2.2 :=
    h.append (List.forall_mem_singleton.2 (rfl : link.capabilitiesCall.isTraffic))
  rcases settle_cases (bus.recorded.device number) link usb488 lockout s with
    ⟨e, hs⟩ | ⟨c, hs, hl⟩
  · rw [hs]
    exact bracketed_handBack hasked
  · obtain ⟨bytes, capabilities, -, -, hm⟩ := hl
    obtain ⟨events, hasks, hlog⟩ := hm.log_eq
    rw [hs]
    dsimp only
    rw [hm.sameOpening, hlog]
    exact hasked.append fun event he => (hasks event he).isTraffic

theorem ensures_establish_bracketed (bus : Bus σ) (number : Nat) (info : DeviceInfo)
    (settings : Settings) :
    Ensures (fun s => Bracketed s.2) (establish (bus.recorded.device number) info settings)
      (fun link s => Underway number link.interface link.driverDetached s.2)
      (fun _ s => Bracketed s.2) := by
  unfold establish
  refine Ensures.bind ((bracketed_chooseConfiguration bus number _).ensures fun _ _ => id)
    fun _ => ?_
  refine Ensures.bind (ensures_ofExcept _) fun interface => ?_
  refine Ensures.bind (ensures_ofExcept _) fun endpoints => ?_
  refine Ensures.bind (ensures_detachDriver_bracketed bus number _) fun detached => ?_
  refine Ensures.bind (ensures_claim_bracketed bus number interface detached) fun _ => ?_
  exact ensures_settle_bracketed bus number (fresh info settings interface endpoints detached) _ _

end Link

/-! ## Closed sessions -/

namespace Session

section

variable {bus : Bus σ} {b : Bench σ}

/-- The operations that a session is opened for. -/
def Operation.needsLink : Operation → Bool
  | .openUp => false
  | .close => false
  | .askMany texts => !texts.isEmpty
  | .setTimeout _ => false
  | .drop => false
  | _ => true

theorem onLink_of_closed (ho : b.session.opened = none) {α : Type}
    (action : Device σ → Exchange σ α) : onLink bus action b = (.error .notOpen, b) := by
  unfold onLink
  rw [ho]

theorem writeRaw_of_closed (ho : b.session.opened = none) (data : List UInt8) :
    writeRaw bus data b = (.error .notOpen, b) :=
  onLink_of_closed ho _

theorem readRaw_of_closed (ho : b.session.opened = none) :
    readRaw bus b = (.error .notOpen, b) :=
  onLink_of_closed ho _

theorem ask_of_closed (ho : b.session.opened = none) (text : String) :
    ask bus text b = (.error .notOpen, b) :=
  bind_of_error (writeRaw_of_closed ho _)

/-- An operation of a closed session is refused, and nothing is done. -/
theorem perform_of_closed (ho : b.session.opened = none) {operation : Operation}
    (h : operation.needsLink) : operation.perform bus b = (.error .notOpen, b) := by
  cases operation with
  | openUp => cases h
  | close => cases h
  | setTimeout => cases h
  | drop => cases h
  | write text => exact bind_of_error (writeRaw_of_closed ho _)
  | writeRaw data => exact bind_of_error (writeRaw_of_closed ho _)
  | read => exact bind_of_error (bind_of_error (readRaw_of_closed ho))
  | readRaw => exact bind_of_error (readRaw_of_closed ho)
  | ask text => exact bind_of_error (ask_of_closed ho text)
  | askRaw data => exact bind_of_error (bind_of_error (writeRaw_of_closed ho _))
  | askMany texts =>
    cases texts with
    | nil => cases h
    | cons text texts =>
      refine bind_of_error ?_
      rw [askMany, List.mapM_cons]
      exact bind_of_error (ask_of_closed ho text)
  | _ => exact bind_of_error (onLink_of_closed ho _)

theorem perform_openUp_of_opened (h : b.session.isOpen) :
    Operation.openUp.perform bus b = (.ok .done, b) := by
  refine (bind_of_ok (a := ()) ?_).trans rfl
  rw [openUp_apply, if_pos h]

theorem perform_close_of_closed (ho : b.session.opened = none) :
    Operation.close.perform bus b = (.ok .done, b) := by
  refine (bind_of_ok (a := ()) ?_).trans rfl
  rw [close, ho]

/-- An opening that fails leaves the session closed. -/
theorem session_of_perform_openUp {b' : Bench σ} {e : Failure}
    (h : Operation.openUp.perform bus b = (.error e, b')) :
    b'.session = b.session ∧ b.session.opened = none := by
  have hopen : openUp bus b = (.error e, b') := by
    rw [Operation.perform, bind_apply] at h
    generalize openUp bus b = opening at *
    rcases opening with ⟨e' | _, b''⟩
    · cases h
      rfl
    · cases h
  rw [openUp_apply] at hopen
  split at hopen
  · cases hopen
  · next hclosed =>
    have hnone : b.session.opened = none := by simpa [isOpen] using hclosed
    split at hopen
    · cases hopen
      exact ⟨rfl, hnone⟩
    · split at hopen <;> cases hopen
      exact ⟨rfl, hnone⟩

end

/-! ## Runs -/

theorem bracketed_resolve (bus : Bus σ) (resource : Resource) :
    Respects (Preserves fun s => Bracketed s.2) (resolve bus.recorded resource) :=
  respects_resolve (fun _ h => Bracketed.outside h rfl) resource

/-- A link is opened within a bracket. -/
theorem ensures_openLink_bracketed (bus : Bus σ) (info : DeviceInfo) (settings : Settings) :
    Ensures (fun s => Bracketed s.2) (openLink bus.recorded info settings)
      (fun opened s =>
        Underway opened.handle opened.link.interface opened.link.driverDetached s.2)
      (fun _ s => Bracketed s.2) := by
  refine ensures_openLink_of (fun s h => ?_) fun number =>
    (Link.ensures_establish_bracketed bus number info settings).mono (fun _ _ => id)
      fun _ _ h => h.outside rfl
  have hopening : Bracketed (bus.recorded.openDevice info s).2.2 := h.outside rfl
  generalize bus.recorded.openDevice info s = found at *
  rcases found with ⟨e | number, t⟩ <;> exact hopening

theorem lasts_bracketed (bus : Bus σ) (settings : Settings) :
    Lasts bus.recorded settings (fun s => Bracketed s.2) fun opened s =>
      Underway opened.handle opened.link.interface opened.link.driverDetached s.2 where
  resolve := bracketed_resolve bus
  openLink info _ := ensures_openLink_bracketed bus info _
  setTimeout h _ := h
  operate {opened s c} h hm := by
    obtain ⟨events, hasks, hlog⟩ := hm.log_eq
    dsimp only
    rw [hm.sameOpening, hlog]
    exact h.append fun event he => (hasks event he).isTraffic
  close {opened s} h :=
    Bracketed.outside (@Link.bracketed_handBack σ bus opened.handle ⟨opened.link, s⟩ h) rfl

/-- On a bus of any behaviour: what is recorded of a run that ends with the session let go of is made of
complete brackets. While the session is open the last bracket is open for its device, also after any
number of envelopes of a message that is being read, even one without end. A closed session refuses every
operation that needs a link without asking for anything, opening an open session and closing a closed one
do nothing, and an opening that fails leaves the session closed. -/
theorem bracketed_run (bus : Bus σ) (resource : Resource) (settings : Settings) (start : σ)
    (operations : List Operation) :
    let ran (operations : List Operation) :=
      (run bus.recorded operations ⟨{ resource, settings }, (start, [])⟩).2
    Bracketed (ran (operations ++ [.drop])).bus.2 ∧
      (∀ opened, (ran operations).session.opened = some opened → ∀ n,
        let c := (fun c => (Link.readEnvelope (bus.recorded.device opened.handle) c).2)^[n]
          ⟨opened.link, (ran operations).bus⟩
        Underway opened.handle opened.link.interface opened.link.driverDetached c.device.2) ∧
      ∀ b : Bench (σ × List BusEvent),
        (b.session.opened = none →
          Operation.close.perform bus.recorded b = (.ok .done, b) ∧
            ∀ operation : Operation, operation.needsLink →
              operation.perform bus.recorded b = (.error .notOpen, b)) ∧
        (b.session.isOpen → Operation.openUp.perform bus.recorded b = (.ok .done, b)) ∧
        ∀ e b', Operation.openUp.perform bus.recorded b = (.error e, b') →
          b'.session.opened = none := by
  intro ran
  have hstart : During settings (fun s : σ × List BusEvent => Bracketed s.2)
      (fun opened s => Underway opened.handle opened.link.interface opened.link.driverDetached s.2)
      ⟨{ resource, settings }, (start, [])⟩ :=
    ⟨⟨settings.timeoutMs, rfl⟩, .nil⟩
  refine ⟨?_, fun opened ho n => ?_, fun b => ⟨fun ho => ⟨perform_close_of_closed ho,
    fun _ => perform_of_closed ho⟩, perform_openUp_of_opened, fun e b' h => ?_⟩⟩
  · have hran := (lasts_bracketed bus settings).during_run (operations ++ [.drop]) hstart
    exact hran.of_closed (opened_run_drop operations _)
  · have hran := (lasts_bracketed bus settings).during_run operations hstart
    obtain ⟨events, hasks, hlog⟩ := (Link.moves_iterate_readEnvelope
      (bus.recorded.device opened.handle) (fun _ => False) ⟨opened.link, (ran operations).bus⟩
      n).log_eq
    dsimp only
    rw [hlog]
    exact (hran.of_opened ho).append fun event he => (hasks event he).isTraffic
  · obtain ⟨hsession, hnone⟩ := session_of_perform_openUp h
    rw [hsession, hnone]

/-- An instrument that the operating system has a driver for. -/
def drivenInfo : DeviceInfo := ⟨0x0957, 2, none, "mock", 2, []⟩

/-- A session with this instrument, after some operations. -/
def ranDriven (operations : List Operation) : Bench (ScriptedBus × List BusEvent) :=
  (run ScriptedBus.behaviour.recorded operations
    ⟨{ resource := .attached drivenInfo, settings := {} },
      ({ devices := [(drivenInfo, { ScriptedDevice.plain with driverActive := true })] }, [])⟩).2

/-- The driver is detached and put back, and in between a clear is made of an open session only. -/
theorem bracketed_run_driven :
    ((ranDriven [.openUp, .clear, .drop]).bus.2.length = 8 ∧
      Bracketed (ranDriven [.openUp, .clear, .drop]).bus.2) ∧
    (∃ opened, (ranDriven [.openUp, .clear]).session.opened = some opened ∧
      opened.link.driverDetached = true ∧
      let c := (fun c => (Link.readEnvelope (ScriptedBus.behaviour.recorded.device opened.handle)
        c).2)^[2] ⟨opened.link, (ranDriven [.openUp, .clear]).bus⟩
      Underway opened.handle opened.link.interface opened.link.driverDetached c.device.2) ∧
    Operation.clear.perform ScriptedBus.behaviour.recorded (ranDriven []) =
      (.error .notOpen, ranDriven []) ∧
    Operation.openUp.perform ScriptedBus.behaviour.recorded (ranDriven [.openUp]) =
      (.ok .done, ranDriven [.openUp]) := by
  have h := bracketed_run ScriptedBus.behaviour (.attached drivenInfo) {}
    { devices := [(drivenInfo, { ScriptedDevice.plain with driverActive := true })] }
    [.openUp, .clear]
  have hran (operations : List Operation) : (run ScriptedBus.behaviour.recorded operations
      ⟨{ resource := .attached drivenInfo, settings := {} },
        ({ devices := [(drivenInfo, { ScriptedDevice.plain with driverActive := true })] }, [])⟩).2 =
      ranDriven operations := rfl
  simp only [hran, List.cons_append, List.nil_append] at h
  obtain ⟨hdrop, hunderway, hbench⟩ := h
  have hdetached : (ranDriven [.openUp, .clear]).session.opened.map
      (fun opened => opened.link.driverDetached) = some true := by decide +kernel
  have hisOpen : (ranDriven [.openUp]).session.isOpen := by decide +kernel
  obtain ⟨opened, ho, hd⟩ := Option.map_eq_some_iff.1 hdetached
  exact ⟨⟨by decide +kernel, hdrop⟩, ⟨opened, ho, hd, hunderway opened ho 2⟩,
    ((hbench (ranDriven [])).1 rfl).2 .clear rfl, (hbench (ranDriven [.openUp])).2.1 hisOpen⟩

end Session

end Benchtop
