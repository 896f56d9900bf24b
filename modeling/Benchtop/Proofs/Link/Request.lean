import Benchtop.Link.Control
import Benchtop.Proofs.Action
import Benchtop.Proofs.Trace

/-!
# One request

What the requests do that are answered by a status. A request leads where its call leads, whatever is
answered, and succeeds if the answer begins with success (`Event.isAcknowledged`). Remote control is noted
if it is acknowledged, the lock of the front panel if there is any answer, and neither is noted otherwise
(`remoteControl_apply`, `setLock_apply`).
-/

namespace Benchtop

open Usb Wire

variable {σ : Type} {dev : Device σ}

/-- The answer to a request begins with success. -/
def Usb.Event.isAcknowledged : Event → Bool
  | ⟨.controlIn .., .ok (code :: _)⟩ => Status.ofCode code = .success
  | _ => false

namespace Link

theorem attempt_of_perform {call : Call} {answer : Except BusError call.Answer} {link : Link} {s t : σ}
    (h : dev.perform call s = (answer, t)) : attempt dev call ⟨link, s⟩ = (answer, ⟨link, t⟩) := by
  rw [attempt, h]

/-- A request to the interface. -/
def requestCall (link : Link) (r : Request) (value : UInt16) : Call :=
  .controlIn (.toInterface r.code value link.interface) 1 link.timing.timeout

/-- The failure that the answer to a request is, if it is one. -/
def requestFailure? (r : Request) : Except BusError (List UInt8) → Option Failure
  | .error e => some (.bus e)
  | .ok [] => some (.badAnswer (.noData r.name))
  | .ok (code :: _) =>
    if Status.ofCode code = .success then none else some (.requestFailed r (Status.ofCode code).code)

/-- What a step comes to whose failure this is. -/
def outcomeOf : Option Failure → Except Failure Unit
  | none => .ok ()
  | some failure => .error failure

/-- What a request comes to depends on its answer alone. -/
theorem request_eq (dev : Device σ) (r : Request) (value : UInt16) (c : Connection σ) :
    request dev r value c =
      (outcomeOf (requestFailure? r (attempt dev (c.link.requestCall r value) c).1),
        (attempt dev (c.link.requestCall r value) c).2) := by
  rw [request, get_bind_apply, bind_apply, call]
  unfold requestCall
  rcases attempt dev (.controlIn (.toInterface r.code value c.link.interface) 1
    c.link.timing.timeout) c with ⟨e | _ | ⟨code, rest⟩, c'⟩
  · rfl
  · rfl
  · simp only [mapError_ok, statusOf, MonadExcept.ofExcept, pure_bind, requestFailure?]
    by_cases h : Status.ofCode code = .success
    · rw [if_neg (not_not_intro h), if_pos h]
      rfl
    · rw [if_pos h, if_neg h]
      rfl

/-- A request leads where its call leads, whatever comes of it. -/
theorem request_apply (r : Request) (value : UInt16) (c : Connection σ) :
    (request dev r value c).2 = (attempt dev (c.link.requestCall r value) c).2 := by
  rw [request_eq]

/-- A request succeeds if it is acknowledged. -/
theorem isOk_request (dev : Device σ) (r : Request) (value : UInt16) (c : Connection σ) :
    (request dev r value c).1.isOk =
      (Event.mk _ (attempt dev (c.link.requestCall r value) c).1).isAcknowledged := by
  rw [request_eq]
  have hanswer (answer : Except BusError (List UInt8)) :
      (outcomeOf (requestFailure? r answer)).isOk =
        (Event.mk (c.link.requestCall r value) answer).isAcknowledged := by
    rcases answer with e | _ | ⟨code, rest⟩
    · rfl
    · rfl
    · change (outcomeOf (requestFailure? r (.ok (code :: rest)))).isOk =
        decide (Status.ofCode code = .success)
      rw [requestFailure?]
      by_cases h : Status.ofCode code = .success
      · rw [if_pos h, decide_eq_true h]
        rfl
      · rw [if_neg h, decide_eq_false h]
        rfl
  exact hanswer _

/-! ## Remote control -/

theorem requireRemoteLocal_apply (c : Connection σ) :
    requireRemoteLocal c =
      (if c.link.capabilities.remoteLocal then .ok () else .error (.notSupported .remoteLocal),
        c) := by
  rw [requireRemoteLocal, get_bind_apply]
  split <;> rfl

/-- What needs remote and local control is done where there is such a thing, and refused otherwise. -/
theorem requireRemoteLocal_bind_apply {α : Type} (action : Exchange σ α) (c : Connection σ) :
    (requireRemoteLocal >>= fun _ => action) c =
      if c.link.capabilities.remoteLocal then action c
      else (.error (.notSupported .remoteLocal), c) := by
  rw [bind_apply, requireRemoteLocal_apply]
  by_cases h : c.link.capabilities.remoteLocal
  · rw [if_pos h, if_pos h]
  · rw [if_neg h, if_neg h]

/-- The device is asked to go to local control if it knows of that. -/
theorem goToLocal_apply (c : Connection σ) :
    (goToLocal dev c).2 =
      if c.link.capabilities.remoteLocal then (attempt dev (c.link.requestCall .goToLocal 0) c).2
      else c := by
  rw [goToLocal, requireRemoteLocal_bind_apply]
  split
  · exact request_apply .goToLocal 0 c
  · rfl

/-- Remote control is taken or given back by one request if the device knows of that, and noted if it is
acknowledged. -/
theorem remoteControl_apply (dev : Device σ) (on : Bool) (c : Connection σ) :
    (remoteControl dev on c).2 =
      if c.link.capabilities.remoteLocal then
        let made := attempt dev (c.link.requestCall .remoteEnable (switchValue on)) c
        { made.2 with
          link.remote := if (Event.mk _ made.1).isAcknowledged then on else c.link.remote }
      else c := by
  rw [remoteControl, requireRemoteLocal_bind_apply]
  split
  · have hok := isOk_request dev .remoteEnable (switchValue on) c
    dsimp only
    rcases hr : request dev .remoteEnable (switchValue on) c with ⟨e | _, c'⟩ <;>
      obtain rfl : (request dev .remoteEnable (switchValue on) c).2 = c' := by rw [hr]
    · rw [hr] at hok
      rw [bind_of_error hr, request_apply, ← hok]
      rfl
    · rw [hr] at hok
      rw [bind_of_ok hr, request_apply, ← hok]
      rfl
  · rfl

theorem goToLocal_eq {c : Connection σ} (h : c.link.capabilities.remoteLocal) :
    goToLocal dev c =
      (outcomeOf (requestFailure? .goToLocal (attempt dev (c.link.requestCall .goToLocal 0) c).1),
        (attempt dev (c.link.requestCall .goToLocal 0) c).2) := by
  rw [goToLocal, requireRemoteLocal_bind_apply, if_pos h, request_eq]

theorem remoteControl_eq (on : Bool) {c : Connection σ} (h : c.link.capabilities.remoteLocal) :
    remoteControl dev on c =
      let made := attempt dev (c.link.requestCall .remoteEnable (switchValue on)) c
      match requestFailure? .remoteEnable made.1 with
      | some failure => (.error failure, made.2)
      | none => (.ok (), { made.2 with link.remote := on }) := by
  rw [remoteControl, requireRemoteLocal_bind_apply, if_pos h, bind_apply, request_eq]
  dsimp only
  cases requestFailure? .remoteEnable
    (attempt dev (c.link.requestCall .remoteEnable (switchValue on)) c).1 <;> rfl

/-! ## Front panel -/

theorem requireLockable_apply (operation : String) (c : Connection σ) :
    requireLockable operation c =
      (if c.link.profile.isLockable then .ok ()
        else .error (.notSupported (.frontPanel operation c.link.info.vendor c.link.info.product)),
        c) := by
  rw [requireLockable, get_bind_apply]
  split <;> rfl

/-- What needs a lockable instrument is done if it is one, and refused otherwise. -/
theorem requireLockable_bind_apply {α : Type} (operation : String) (action : Exchange σ α)
    (c : Connection σ) :
    (requireLockable operation >>= fun _ => action) c =
      if c.link.profile.isLockable then action c
      else (.error (.notSupported
        (.frontPanel operation c.link.info.vendor c.link.info.product)), c) := by
  rw [bind_apply, requireLockable_apply]
  by_cases h : c.link.profile.isLockable
  · rw [if_pos h, if_pos h]
  · rw [if_neg h, if_neg h]

/-- Switching the lock is one request, and noted if that gets an answer. -/
theorem setLock_apply (on : Bool) (c : Connection σ) :
    setLock dev on c =
      match attempt dev (c.link.requestCall .frontPanelLock (switchValue on)) c with
      | (.ok _, c') => (.ok (), { c' with link.locked := on })
      | (.error e, c') => (.error (.bus e), c') := by
  rw [setLock, get_bind_apply, bind_apply, call]
  unfold requestCall
  rcases attempt dev (.controlIn (.toInterface Request.frontPanelLock.code (switchValue on)
    c.link.interface) 1 c.link.timing.timeout) c with ⟨_ | _, c'⟩ <;> rfl

/-- Where switching the lock leads. -/
theorem snd_setLock (on : Bool) (c : Connection σ) :
    (setLock dev on c).2 =
      let made := attempt dev (c.link.requestCall .frontPanelLock (switchValue on)) c
      { made.2 with link.locked := if made.1.isOk then on else c.link.locked } := by
  rw [setLock_apply]
  rcases h : attempt dev (c.link.requestCall .frontPanelLock (switchValue on)) c with ⟨e | _, c'⟩ <;>
    obtain rfl : (attempt dev (c.link.requestCall .frontPanelLock (switchValue on)) c).2 = c' := by
      rw [h]
  · rfl
  · rfl

end Link

end Benchtop
