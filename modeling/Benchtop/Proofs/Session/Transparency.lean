import Benchtop.Proofs.Link.Transparency
import Benchtop.Proofs.Session.Record
import Benchtop.Scripted.Bus

/-!
# Failures of the bus are passed on

The operations of an open session pass on the failures of the bus that meet their own calls, each as it
is, and make no call of their own after one that failed (`transparent_perform`). The reading of the
diagnostic id is the exception: it takes every failure for an id that is not there.
-/

namespace Benchtop.Session

open Usb Wire Link

variable {σ : Type} {bus : Bus σ}

/-- The operations that report how their calls have failed. -/
def Operation.reports : Operation → Bool
  | .readVendorId => false
  | operation => operation.usesLink

/-- The operation clears the halt of an endpoint for itself. -/
def Operation.clears : Operation → Bool
  | .clear => true
  | _ => false

/-- An operation is at work that has begun on `b`, and `holds` is true of its connection. -/
def AtWork (b : Bench σ) (opened : OpenedDevice) (holds : Connection σ → Prop) (b' : Bench σ) : Prop :=
  ∃ c, b' = ⟨{ b.session with opened := some { opened with link := c.link } }, c.device⟩ ∧ holds c

theorem ensures_onLink {α : Type} {b : Bench σ} {opened : OpenedDevice}
    {action : Device σ → Exchange σ α} {p : Connection σ → Prop} {q : α → Connection σ → Prop}
    {e : Failure → Connection σ → Prop} (h : Ensures p (action (bus.device opened.handle)) q e) :
    Ensures (AtWork b opened p) (onLink bus action) (fun a => AtWork b opened (q a))
      fun failure => AtWork b opened (e failure) := by
  rintro _ ⟨c, rfl, hc⟩
  have hmade := h c hc
  rw [onLink_apply rfl]
  dsimp only
  generalize action (bus.device opened.handle) c = made at *
  rcases made with ⟨failure | a, c'⟩ <;> exact ⟨c', rfl, hmade⟩

/-- An operation at work leaves it calm, or fails and concludes it. -/
abbrev WorksCalmly {α : Type} (bus : Bus σ) (b : Bench σ) (opened : OpenedDevice) (clears : Bool)
    (action : Action (Bench σ) α) : Prop :=
  Ensures (AtWork b opened (Calm (bus.device opened.handle) opened.link clears b.bus)) action
    (fun _ => AtWork b opened (Calm (bus.device opened.handle) opened.link clears b.bus))
    fun failure =>
      AtWork b opened (Concludes (bus.device opened.handle) opened.link clears b.bus failure)

section

variable {b : Bench σ} {opened : OpenedDevice}

theorem worksCalmly_onLink {α : Type} {clears : Bool} {action : Device σ → Exchange σ α}
    (h : Calmly (bus.device opened.handle) opened.link clears b.bus
      (action (bus.device opened.handle))) :
    WorksCalmly bus b opened clears (onLink bus action) :=
  ensures_onLink h

theorem worksCalmly_writeRaw (data : List UInt8) :
    WorksCalmly bus b opened false (writeRaw bus data) :=
  worksCalmly_onLink ((conveys_calm _ _ _).writeMessage data)

theorem worksCalmly_readRaw : WorksCalmly bus b opened false (readRaw bus) :=
  worksCalmly_onLink (conveys_calm _ _ _).readMessage

theorem worksCalmly_read : WorksCalmly bus b opened false (read bus) :=
  worksCalmly_readRaw.bind fun _ => ensures_pure fun _ => id

theorem worksCalmly_ask (text : String) : WorksCalmly bus b opened false (ask bus text) :=
  (worksCalmly_writeRaw _).bind fun _ => worksCalmly_read

theorem worksCalmly_perform (bus : Bus σ) {operation : Operation} (h : operation.reports) :
    WorksCalmly bus b opened operation.clears (operation.perform bus) := by
  have hdone {α : Type} {clears : Bool} {action : Action (Bench σ) α} (f : α → Answer)
      (haction : WorksCalmly bus b opened clears action) :
      WorksCalmly bus b opened clears (action >>= fun a => pure (f a)) :=
    haction.bind fun _ => ensures_pure fun _ => id
  cases operation with
  | openUp => cases h
  | close => cases h
  | setTimeout => cases h
  | drop => cases h
  | readVendorId => cases h
  | write text => exact hdone _ (worksCalmly_writeRaw _)
  | writeRaw data => exact hdone _ (worksCalmly_writeRaw _)
  | read => exact hdone _ worksCalmly_read
  | readRaw => exact hdone _ worksCalmly_readRaw
  | ask text => exact hdone _ (worksCalmly_ask text)
  | askRaw data => exact hdone _ ((worksCalmly_writeRaw _).bind fun _ => worksCalmly_readRaw)
  | askMany texts => exact hdone _ (Ensures.mapM worksCalmly_ask texts)
  | readStatusByte => exact hdone _ (worksCalmly_onLink calm_readStatusByte)
  | clear => exact hdone _ (worksCalmly_onLink calm_clear)
  | trigger => exact hdone _ (worksCalmly_onLink (conveys_calm _ _ _).trigger)
  | pulse => exact hdone _ (worksCalmly_onLink calm_pulse)
  | remoteControl on => exact hdone _ (worksCalmly_onLink (calm_remoteControl on))
  | goToLocal => exact hdone _ (worksCalmly_onLink calm_goToLocal)
  | localLockout => exact hdone _ (worksCalmly_onLink calm_localLockout)
  | lock => exact hdone _ (worksCalmly_onLink calm_lock)
  | unlock => exact hdone _ (worksCalmly_onLink calm_unlock)

theorem atWork_start (ho : b.session.opened = some opened) {holds : Connection σ → Prop}
    (h : holds ⟨opened.link, b.bus⟩) : AtWork b opened holds b := by
  refine ⟨_, ?_, h⟩
  rw [show some { opened with link := opened.link } = b.session.opened from ho.symm]

end

/-- On a bus of any behaviour, whatever the state of the open session: an operation keeps it open and makes
calls of its device only. It fails with a failure of the bus exactly if a call of its own has failed, and
with that failure as it is. After such a call it makes no other of its own, and what else it calls is to
recover from a timeout or to drain an endpoint (`Transparent`). A message without end is read while the
device answers every call. -/
theorem transparent_perform (bus : Bus σ) {b : Bench (σ × List BusEvent)} {opened : OpenedDevice}
    (ho : b.session.opened = some opened) {operation : Operation} (h : operation.reports) :
    ∃ answer link s events,
      operation.perform bus.recorded b =
        (answer, ⟨{ b.session with opened := some { opened with link } }, s⟩) ∧
      s.2 = b.bus.2 ++ events.map (.call opened.handle) ∧
      Transparent opened.link operation.clears events answer ∧
      (answer = .error .oversupplied → Answers (bus.recorded.device opened.handle) s) := by
  have huses : operation.usesLink := by
    cases operation <;> first | rfl | cases h
  obtain ⟨d, hm, hperform⟩ := exists_movesFor_of_perform bus.recorded ho huses
  obtain ⟨asked, hasked, hasks⟩ := hm.exists_trace
  have hrecovers (events : List Event)
      (ht : (bus.recorded.device opened.handle).Trace b.bus events d.device) :
      ∀ e ∈ events, ¬ opened.link.IsPrimary operation.clears e.call →
        opened.link.IsRecovery e.call := by
    obtain rfl := ht.eq_of_recorded hasked
    exact fun e he hp => (hasks e he).isRecovery hp
  have hwork := worksCalmly_perform bus.recorded h b (atWork_start ho (calm_start _ _ _ _))
  generalize operation.perform bus.recorded b = made at hwork hperform
  rcases made with ⟨failure | answer, b'⟩ <;> obtain ⟨c, rfl, hc⟩ := hwork
  · have hdevice : c.device = d.device := congrArg Bench.bus hperform
    rw [← hdevice] at hrecovers
    obtain ⟨events, ht, htransparent, hends⟩ := hc.exists_transparent hrecovers
    exact ⟨.error failure, c.link, _, events, rfl, ht.busLog_eq, htransparent,
      fun hfailure => hends (Except.error.inj hfailure)⟩
  · have hdevice : c.device = d.device := congrArg Bench.bus hperform
    rw [← hdevice] at hrecovers
    obtain ⟨events, ht, he⟩ := hc.exists_trace
    exact ⟨.ok answer, c.link, _, events, rfl, ht.busLog_eq,
      he.transparent nofun (hrecovers events ht), nofun⟩

/-- An open session with an instrument that does not take the next transfer, and stalls when that is to
be aborted. -/
def overdue : Bench (ScriptedBus × List BusEvent) :=
  let info : DeviceInfo := ⟨1, 2, none, "mock", 2, []⟩
  let device : ScriptedDevice :=
    { ScriptedDevice.plain with
      bulkOutErrors := [.timedOut 5000]
      controlQueue := [(Request.initiateAbortOut.code, .error (.stalled 0))] }
  (run ScriptedBus.behaviour.recorded [.openUp]
    ⟨{ resource := .attached info, settings := { maxTransferSize := 2 } },
      ({ devices := [(info, device)] }, [])⟩).2

/-- Of three pieces the first is not taken. Its timeout is reported, not the failure of the abort, and no
other piece is sent. -/
theorem transparent_perform_overdue :
    ∃ opened, overdue.session.opened = some opened ∧
      ∃ link s events,
        (Operation.writeRaw [1, 2, 3, 4, 5]).perform ScriptedBus.behaviour.recorded overdue =
          (.error (.bus (.timedOut 5000)),
            ⟨{ overdue.session with opened := some { opened with link } }, s⟩) ∧
        s.2 = overdue.bus.2 ++ events.map (.call opened.handle) ∧
        events.length = 2 ∧
        Transparent opened.link false events
          (.error (.bus (.timedOut 5000)) : Except Failure Answer) := by
  have hopen : overdue.session.isOpen := by decide +kernel
  have hfails : (match ((Operation.writeRaw [1, 2, 3, 4, 5]).perform ScriptedBus.behaviour.recorded
        overdue).1 with
      | .ok _ => none
      | .error failure => some failure) = some (.bus (.timedOut 5000)) := by decide +kernel
  have hcalls : ((Operation.writeRaw [1, 2, 3, 4, 5]).perform ScriptedBus.behaviour.recorded
      overdue).2.bus.2.length = overdue.bus.2.length + 2 := by decide +kernel
  have hreports : (Operation.writeRaw [1, 2, 3, 4, 5]).reports := rfl
  obtain ⟨opened, ho⟩ := Option.isSome_iff_exists.1 hopen
  obtain ⟨answer, link, s, events, hperform, hlog, htransparent, -⟩ :=
    transparent_perform ScriptedBus.behaviour ho hreports
  rw [hperform] at hfails hcalls
  rcases answer with failure | answer
  · obtain rfl := Option.some.inj hfails
    refine ⟨opened, ho, link, s, events, hperform, hlog, ?_, htransparent⟩
    dsimp only at hcalls
    rw [hlog, List.length_append, List.length_map] at hcalls
    exact Nat.add_left_cancel hcalls
  · cases hfails

end Benchtop.Session
