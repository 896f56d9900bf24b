import Benchtop.Proofs.Link.Closing
import Benchtop.Proofs.Session.Flags

/-!
# What closing comes to

An open session is closed by handing its instrument back and letting go of the device. As remote control
and the lock are noted only of instruments that know of them (`Accounted`), none of the steps is refused
by the link itself: each of them asks the device, and fails only by what the device answers.

Main statement: at any point of any run, closing an open session takes all the steps that its link has to
take, in order, and reports the first of them that fails (`close_run`).
-/

namespace Benchtop.Session

open Usb Wire Link

variable {σ : Type} {bus : Bus σ}

theorem close_of_opened {b : Bench σ} {opened : OpenedDevice} (ho : b.session.opened = some opened) :
    close bus b =
      let handed := handBack (bus.device opened.handle) ⟨opened.link, b.bus⟩
      (outcomeOf handed.1,
        ⟨{ b.session with opened := none }, bus.letGo opened.handle handed.2.device⟩) := by
  rw [close, ho]
  dsimp only
  rcases handBack (bus.device opened.handle) ⟨opened.link, b.bus⟩ with ⟨_ | e, c⟩ <;> rfl

/-- Closing is recorded as the steps of handing back and the end of the hold on the device. -/
theorem exists_taken_of_close (bus : Bus σ) {b : Bench (σ × List BusEvent)} {opened : OpenedDevice}
    (ho : b.session.opened = some opened) (hjustified : opened.link.Justified) :
    ∃ taken : List (ClosingStep × Event), taken.map (·.1) = opened.link.closingSteps ∧
      (∀ step ∈ taken, step.2.call = step.1.call opened.link) ∧
      FailAsAnswered (bus.recorded.device opened.handle) opened.link b.bus taken ∧
      (close bus.recorded b).2.bus.2 =
        b.bus.2 ++ taken.map (fun step => .call opened.handle step.2) ++ [.letGo opened.handle] ∧
      (close bus.recorded b).1 = outcomeOf (taken.findSome? failureOf) := by
  have hhanded : HandsBack (bus.recorded.device opened.handle) opened.link opened.link.closingSteps
      none ⟨opened.link, b.bus⟩ (handBack (bus.recorded.device opened.handle) ⟨opened.link, b.bus⟩) :=
    handsBack_handBack (c := ⟨opened.link, b.bus⟩) hjustified
  obtain ⟨taken, hsteps, hcalls, hfails, ht, hfailed⟩ := hhanded
  have hlog := ht.busLog_eq
  rw [List.map_map] at hlog
  rw [close_of_opened ho]
  refine ⟨taken, hsteps, hcalls, hfails, ?_, ?_⟩
  · exact congrArg (· ++ [BusEvent.letGo opened.handle]) hlog
  · exact congrArg outcomeOf (hfailed.trans Option.none_or)

/-- On a bus of any behaviour, at any point of any run, while the session is open: the driver was detached
when the interface was claimed if and only if the link has noted that, and closing makes one call for each
step that the link has to take, in order, whichever of them fail. Each of them fails as its call is
answered, and none for want of support. Closing succeeds if all of them do, and reports the first that fails
otherwise. The session is closed afterwards, whatever has failed. -/
theorem close_run (bus : Bus σ) (resource : Resource) (settings : Settings) (start : σ)
    (operations : List Operation) :
    let b := (run bus.recorded operations ⟨{ resource, settings }, (start, [])⟩).2
    let closed := close bus.recorded b
    ∀ opened, b.session.opened = some opened →
      Underway opened.handle opened.link.interface opened.link.driverDetached b.bus.2 ∧
      (∃ taken : List (ClosingStep × Event), taken.map (·.1) = opened.link.closingSteps ∧
        (∀ step ∈ taken, step.2.call = step.1.call opened.link) ∧
        FailAsAnswered (bus.recorded.device opened.handle) opened.link b.bus taken ∧
        closed.2.bus.2 =
          b.bus.2 ++ taken.map (fun step => .call opened.handle step.2) ++ [.letGo opened.handle] ∧
        closed.1 = outcomeOf (taken.findSome? failureOf) ∧
        ∀ step ∈ taken, ∀ what, failureOf step ≠ some (.notSupported what)) ∧
      closed.2.session = { b.session with opened := none } := by
  intro b closed opened ho
  have hclosed : Accounted [] (⟨{ resource, settings }, (start, [])⟩ : Bench (σ × List BusEvent)) :=
    ⟨rfl, fun opened ho => by cases ho⟩
  have hflagged := (hclosed.run bus operations).flagged opened ho
  have hstart : During settings (fun s : σ × List BusEvent => Bracketed s.2)
      (fun opened s => Underway opened.handle opened.link.interface opened.link.driverDetached s.2)
      ⟨{ resource, settings }, (start, [])⟩ :=
    ⟨⟨settings.timeoutMs, rfl⟩, .nil⟩
  have hran := (lasts_bracketed bus settings).during_run operations hstart
  obtain ⟨taken, hsteps, hcalls, hfails, hlog, houtcome⟩ :=
    exists_taken_of_close bus ho hflagged.justified
  exact ⟨hran.of_opened ho, ⟨taken, hsteps, hcalls, hfails, hlog, houtcome,
    fun step _ => failureOf_ne_notSupported step⟩, session_close b⟩

/-- An instrument with a driver, remote control and a front panel lock. It refuses to give remote control
back, and stalls when it is unlocked. -/
def balkingDevice : ScriptedDevice :=
  { ((ScriptedDevice.usb488 false).setControlDefault Request.getCapabilities.code
      (Scripted.capabilitiesAnswer 0 0 2 0)).setControlDefault Request.goToLocal.code [1] with
    driverActive := true
    controlQueue := [.ok [1], .ok [1], .ok [0x80], .error (.stalled 0)].map fun answer =>
      (Request.remoteEnable.code, answer) }

def balkingInfo : DeviceInfo := ⟨0x1334, 2, none, "mock", 2, []⟩

/-- A session with this instrument that has locked it. -/
def balking : Bench (ScriptedBus × List BusEvent) :=
  (run ScriptedBus.behaviour.recorded [.openUp, .lock]
    ⟨{ resource := .attached balkingInfo, settings := {} },
      ({ devices := [(balkingInfo, balkingDevice)] }, [])⟩).2

/-- All five steps are taken, and the failure to give back remote control is reported. -/
theorem close_run_balking :
    ∃ opened, balking.session.opened = some opened ∧
      opened.link.closingSteps = [.goToLocal, .leaveRemote, .unlock, .release, .attachDriver] ∧
      Underway opened.handle opened.link.interface true balking.bus.2 ∧
      (∃ taken : List (ClosingStep × Event), taken.map (·.1) = opened.link.closingSteps ∧
        (close ScriptedBus.behaviour.recorded balking).2.bus.2 =
          balking.bus.2 ++ taken.map (fun step => .call opened.handle step.2) ++
            [.letGo opened.handle] ∧
        taken.findSome? failureOf = some (.requestFailed .remoteEnable 0x80)) ∧
      (close ScriptedBus.behaviour.recorded balking).2.session = { balking.session with opened := none } := by
  have hran : (run ScriptedBus.behaviour.recorded [.openUp, .lock]
      ⟨{ resource := .attached balkingInfo, settings := {} },
        ({ devices := [(balkingInfo, balkingDevice)] }, [])⟩).2 = balking := rfl
  have hclose := close_run ScriptedBus.behaviour (.attached balkingInfo) {}
    { devices := [(balkingInfo, balkingDevice)] } [.openUp, .lock]
  simp only [hran] at hclose
  have hnoted : balking.session.opened.map
      (fun opened => (opened.link.closingSteps, opened.link.driverDetached)) =
        some ([.goToLocal, .leaveRemote, .unlock, .release, .attachDriver], true) := by
    decide +kernel
  have hreported : (close ScriptedBus.behaviour.recorded balking).1 =
      .error (.requestFailed .remoteEnable 0x80) := by decide +kernel
  obtain ⟨opened, ho, hlink⟩ := Option.map_eq_some_iff.1 hnoted
  obtain ⟨hsteps, hdetached⟩ := Prod.mk.inj hlink
  obtain ⟨hunderway, ⟨taken, htaken, -, -, hlog, houtcome, -⟩, hsession⟩ := hclose opened ho
  rw [hdetached] at hunderway
  refine ⟨opened, ho, hsteps, hunderway, ⟨taken, htaken, hlog, ?_⟩, hsession⟩
  rw [hreported] at houtcome
  cases hfirst : taken.findSome? failureOf with
  | none =>
    rw [hfirst] at houtcome
    cases houtcome
  | some failure =>
    rw [hfirst] at houtcome
    rw [Except.error.inj houtcome]

end Benchtop.Session
