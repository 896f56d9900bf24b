import Benchtop.Proofs.Link.HandingBack
import Benchtop.Proofs.Link.Switches

/-!
# The failures of handing back

An instrument is handed back in up to five steps (`closingSteps`), each of which makes one call. A step may
fail by its call, and the two steps that give back remote control also by an answer that does not begin with
success (`failureOf`); it does not fail otherwise (`FailAsAnswered`). Whichever of them fail, all steps are
taken, and what is reported is the first failure among them: `HandsBack` says so of a part of the steps, and
parts are put together (`HandsBack.append`).

Main statement: so it is with the whole of handing back, if what the link has noted of remote control and
the lock is justified (`handsBack_handBack`).
-/

namespace Benchtop

open Usb Wire

/-- The failure that a call is by its answer. If the call is a request that has to be acknowledged, its
answer has to begin with success. -/
def Usb.Event.failure? (acknowledged : Option Request) : Event → Option Failure
  | ⟨_, .error e⟩ => some (.bus e)
  | ⟨.controlIn .., .ok bytes⟩ => acknowledged.bind fun r => Link.requestFailure? r (.ok bytes)
  | _ => none

namespace Link

variable {σ : Type} {dev : Device σ} {link : Link} {failed : Option Failure} {c : Connection σ}

/-! ## Steps -/

inductive ClosingStep where
  | goToLocal
  | leaveRemote
  | unlock
  | release
  | attachDriver
  deriving DecidableEq, Repr

namespace ClosingStep

/-- The call of a step. -/
def call (link : Link) : ClosingStep → Call
  | goToLocal => link.requestCall .goToLocal 0
  | leaveRemote => link.requestCall .remoteEnable 0
  | unlock => link.requestCall .frontPanelLock 0
  | release => .release link.interface
  | attachDriver => .attachDriver link.interface

/-- What is done for a step. -/
def action (dev : Device σ) (link : Link) : ClosingStep → Exchange σ Unit
  | goToLocal => Link.goToLocal dev
  | leaveRemote => remoteControl dev false
  | unlock => Link.unlock dev
  | release => Link.call dev (.release link.interface)
  | attachDriver => Link.call dev (.attachDriver link.interface)

/-- The request of a step that has to be acknowledged. -/
def acknowledged : ClosingStep → Option Request
  | goToLocal => some .goToLocal
  | leaveRemote => some .remoteEnable
  | _ => none

end ClosingStep

/-- The steps of handing back a link: remote control and the lock are given back as far as they are noted,
and the driver as far as it was detached. -/
def closingSteps (link : Link) : List ClosingStep :=
  (if link.remote then [.goToLocal, .leaveRemote] else []) ++
    ((if link.locked then [.unlock] else []) ++
      (.release :: if link.driverDetached then [.attachDriver] else []))

/-- How a step has failed, if it has. -/
def failureOf (taken : ClosingStep × Event) : Option Failure := taken.2.failure? taken.1.acknowledged

/-- A request fails by its call, or by an answer that does not acknowledge it. -/
theorem requestFailure?_ne_notSupported (r : Request) (answer : Except BusError (List UInt8))
    (what : Unsupported) : requestFailure? r answer ≠ some (.notSupported what) := by
  intro h
  rcases answer with e | _ | ⟨code, rest⟩
  · cases h
  · cases h
  · rw [requestFailure?] at h
    split at h <;> cases h

theorem failureOf_ne_notSupported (taken : ClosingStep × Event) (what : Unsupported) :
    failureOf taken ≠ some (.notSupported what) := by
  intro h
  obtain ⟨step, call, answer⟩ := taken
  rcases answer with e | answer
  · cases h
  · cases call with
    | controlIn =>
      obtain ⟨r, -, hr⟩ := Option.bind_eq_some_iff.1 h
      exact requestFailure?_ne_notSupported r (.ok answer) what hr
    | _ => cases h

section

variable (link : Link) (remote locked : Bool) (step : ClosingStep)

/-- What is noted of a link has no part in the calls of its steps. -/
@[simp] theorem ClosingStep.call_relink : step.call { link with remote, locked } = step.call link := by
  cases step <;> rfl

@[simp] theorem ClosingStep.action_relink :
    step.action dev { link with remote, locked } = step.action dev link := by
  cases step <;> rfl

end

/-! ## Parts of handing back -/

/-- Each step, where it is taken after those before it, fails as its call is answered, and only so. -/
def FailAsAnswered (dev : Device σ) (link : Link) (s : σ) (taken : List (ClosingStep × Event)) : Prop :=
  ∀ step ∈ taken, ∃ before after, taken = before ++ step :: after ∧
    ∃ remote locked t, dev.Trace s (before.map (·.2)) t ∧
      (step.1.action dev link ⟨{ link with remote, locked }, t⟩).1 = outcomeOf (failureOf step)

theorem FailAsAnswered.append {s t : σ} {taken taken' : List (ClosingStep × Event)}
    (h : FailAsAnswered dev link s taken) (ht : dev.Trace s (taken.map (·.2)) t)
    (h' : FailAsAnswered dev link t taken') : FailAsAnswered dev link s (taken ++ taken') := by
  refine List.forall_mem_append.2 ⟨fun step hstep => ?_, fun step hstep => ?_⟩
  · obtain ⟨before, after, rfl, hfails⟩ := h step hstep
    exact ⟨before, after ++ taken', by rw [List.append_assoc, List.cons_append], hfails⟩
  · obtain ⟨before, after, rfl, remote, locked, u, hu, hfails⟩ := h' step hstep
    refine ⟨taken ++ before, after, (List.append_assoc ..).symm, remote, locked, u, ?_, hfails⟩
    rw [List.map_append]
    exact ht.append hu

/-- The steps are taken from `c`, with their calls, and lead to where `made` is. The first failure is
kept. -/
def HandsBack (dev : Device σ) (link : Link) (steps : List ClosingStep) (failed : Option Failure)
    (c : Connection σ) (made : Option Failure × Connection σ) : Prop :=
  ∃ taken : List (ClosingStep × Event), taken.map (·.1) = steps ∧
    (∀ step ∈ taken, step.2.call = step.1.call link) ∧
    FailAsAnswered dev link c.device taken ∧
    dev.Trace c.device (taken.map (·.2)) made.2.device ∧
    made.1 = failed.or (taken.findSome? failureOf)

/-- What is noted of the link has no part in it. -/
theorem HandsBack.relink {remote locked : Bool} {steps : List ClosingStep}
    {made : Option Failure × Connection σ}
    (h : HandsBack dev { link with remote, locked } steps failed c made) :
    HandsBack dev link steps failed c made := by
  simpa only [HandsBack, FailAsAnswered, ClosingStep.call_relink, ClosingStep.action_relink] using h

theorem handsBack_nothing : HandsBack dev link [] failed c (failed, c) :=
  ⟨[], rfl, List.forall_mem_nil _, List.forall_mem_nil _, rfl, Option.or_none.symm⟩

theorem HandsBack.append {steps steps' : List ClosingStep}
    {made made' : Option Failure × Connection σ} (h : HandsBack dev link steps failed c made)
    (h' : HandsBack dev link steps' made.1 made.2 made') :
    HandsBack dev link (steps ++ steps') failed c made' := by
  obtain ⟨taken, rfl, hcalls, hfails, ht, hfailed⟩ := h
  obtain ⟨taken', rfl, hcalls', hfails', ht', hfailed'⟩ := h'
  refine ⟨taken ++ taken', List.map_append, List.forall_mem_append.2 ⟨hcalls, hcalls'⟩,
    hfails.append ht hfails', ?_, ?_⟩
  · rw [List.map_append]
    exact ht.append ht'
  · rw [hfailed', hfailed, List.findSome?_append, Option.or_assoc]

/-- The first failure is kept. -/
theorem step_of_outcome {action : Exchange σ Unit} {failure? : Option Failure}
    (h : (action c).1 = outcomeOf failure?) (failed : Option Failure) :
    Link.step failed action c = (failed.or failure?, (action c).2) := by
  simp only [Link.step, Action.outcome, bind, StateT.bind, ExceptT.run]
  rcases hmade : action c with ⟨answer, c'⟩
  obtain rfl : answer = outcomeOf failure? := by rw [← h, hmade]
  cases failure? with
  | none => rw [Option.or_none]; rfl
  | some failure => cases failed <;> rfl

/-- One step, whose action comes to what its call is answered. -/
theorem handsBack_step (step : ClosingStep)
    (houtcome : (step.action dev c.link c).1 = outcomeOf
      (failureOf (step, ⟨step.call c.link, (dev.perform (step.call c.link) c.device).1⟩)))
    (hdevice : (step.action dev c.link c).2.device = (dev.perform (step.call c.link) c.device).2)
    (failed : Option Failure) :
    HandsBack dev c.link [step] failed c (Link.step failed (step.action dev c.link) c) := by
  rw [step_of_outcome houtcome]
  refine ⟨[(step, ⟨step.call c.link, (dev.perform (step.call c.link) c.device).1⟩)], rfl,
    List.forall_mem_singleton.2 rfl, List.forall_mem_singleton.2 ?_, ?_, ?_⟩
  · exact ⟨[], [], rfl, c.link.remote, c.link.locked, c.device, rfl, houtcome⟩
  · dsimp only
    rw [hdevice]
    exact dev.trace_perform (step.call c.link) c.device
  · rw [List.findSome?_singleton]

/-- A request that has to be acknowledged fails as it is answered. -/
theorem failure?_requestCall (link : Link) (r r' : Request) (value : UInt16)
    (answer : Except BusError (List UInt8)) :
    (Event.mk (link.requestCall r value) answer).failure? (some r') = requestFailure? r' answer := by
  cases answer <;> rfl

theorem handsBack_goToLocal (h : c.link.capabilities.remoteLocal) (failed : Option Failure) :
    HandsBack dev c.link [.goToLocal] failed c (Link.step failed (goToLocal dev) c) := by
  refine handsBack_step .goToLocal ?_ ?_ failed
  · rw [ClosingStep.action, goToLocal_eq h]
    exact congrArg outcomeOf (failure?_requestCall ..).symm
  · rw [ClosingStep.action, goToLocal_eq h]
    rfl

theorem handsBack_remoteControl (h : c.link.capabilities.remoteLocal) (failed : Option Failure) :
    HandsBack dev c.link [.leaveRemote] failed c (Link.step failed (remoteControl dev false) c) := by
  have hfailure := failure?_requestCall c.link .remoteEnable .remoteEnable 0
    (dev.perform (c.link.requestCall .remoteEnable 0) c.device).1
  refine handsBack_step .leaveRemote ?_ ?_ failed
  · rw [ClosingStep.action, remoteControl_eq false h]
    dsimp only
    split
    · next hf => exact (congrArg outcomeOf (hfailure.trans hf)).symm
    · next hf => exact (congrArg outcomeOf (hfailure.trans hf)).symm
  · rw [ClosingStep.action, remoteControl_apply, if_pos h]
    rfl

theorem handsBack_unlock (h : c.link.profile.isLockable) (failed : Option Failure) :
    HandsBack dev c.link [.unlock] failed c (Link.step failed (unlock dev) c) := by
  refine handsBack_step .unlock ?_ ?_ failed
  · rw [ClosingStep.action, unlock, requireLockable_bind_apply, if_pos h, setLock_apply, attempt]
    change _ = outcomeOf (Event.failure? none ⟨c.link.requestCall .frontPanelLock (switchValue false),
      (dev.perform (c.link.requestCall .frontPanelLock (switchValue false)) c.device).1⟩)
    rcases dev.perform (c.link.requestCall .frontPanelLock (switchValue false)) c.device with ⟨e | _, t⟩
      <;> rfl
  · rw [ClosingStep.action, unlock, requireLockable_bind_apply, if_pos h, snd_setLock]
    rfl

theorem handsBack_release (failed : Option Failure) :
    HandsBack dev c.link [.release] failed c
      (Link.step failed (call dev (.release c.link.interface)) c) := by
  have houtcome (answer : Except BusError Unit) : answer.mapError Failure.bus =
      outcomeOf (Event.failure? none ⟨.release c.link.interface, answer⟩) := by
    cases answer <;> rfl
  exact handsBack_step .release (houtcome _) rfl failed

theorem handsBack_attachDriver (failed : Option Failure) :
    HandsBack dev c.link [.attachDriver] failed c
      (Link.step failed (call dev (.attachDriver c.link.interface)) c) := by
  have houtcome (answer : Except BusError Unit) : answer.mapError Failure.bus =
      outcomeOf (Event.failure? none ⟨.attachDriver c.link.interface, answer⟩) := by
    cases answer <;> rfl
  exact handsBack_step .attachDriver (houtcome _) rfl failed

/-! ## All of it -/

theorem handsBack_leaveRemote (h : c.link.remote → c.link.capabilities.remoteLocal)
    (failed : Option Failure) :
    HandsBack dev c.link (if c.link.remote then [.goToLocal, .leaveRemote] else []) failed c
      (leaveRemote dev failed c) := by
  rw [leaveRemote, get_seq_apply]
  by_cases hremote : c.link.remote
  · rw [if_pos hremote, if_pos hremote]
    have hlink : (Link.step failed (goToLocal dev) c).2.link = c.link := by
      rw [step_apply, goToLocal_eq (h hremote)]
      rfl
    have hgo : HandsBack dev c.link [.goToLocal] failed c (Link.step failed (goToLocal dev) c) :=
      handsBack_goToLocal (h hremote) failed
    generalize Link.step failed (goToLocal dev) = goes at *
    have hgive : HandsBack dev (goes c).2.link [.leaveRemote] (goes c).1 (goes c).2
        (Link.step (goes c).1 (remoteControl dev false) (goes c).2) :=
      handsBack_remoteControl (by rw [hlink]; exact h hremote) (goes c).1
    rw [hlink] at hgive
    exact hgo.append hgive
  · rw [if_neg hremote, if_neg hremote]
    exact handsBack_nothing

theorem handsBack_leaveLocked (h : c.link.locked → c.link.profile.isLockable)
    (failed : Option Failure) :
    HandsBack dev c.link (if c.link.locked then [.unlock] else []) failed c
      (leaveLocked dev failed c) := by
  rw [leaveLocked, get_seq_apply]
  by_cases hlocked : c.link.locked
  · rw [if_pos hlocked, if_pos hlocked]
    exact handsBack_unlock (h hlocked) failed
  · rw [if_neg hlocked, if_neg hlocked]
    exact handsBack_nothing

theorem handsBack_reattach (failed : Option Failure) :
    HandsBack dev c.link (if c.link.driverDetached then [.attachDriver] else []) failed c
      (reattach dev failed c) := by
  rw [reattach, get_seq_apply]
  by_cases hdetached : c.link.driverDetached
  · rw [if_pos hdetached, if_pos hdetached]
    exact handsBack_attachDriver failed
  · rw [if_neg hdetached, if_neg hdetached]
    exact handsBack_nothing

/-- Every step is taken, whichever of them fail, and the first failure is what is reported. -/
theorem handsBack_handBack (hjustified : c.link.Justified) :
    HandsBack dev c.link c.link.closingSteps none c (handBack dev c) := by
  rw [handBack_apply]
  dsimp only
  have hremote : HandsBack dev c.link _ none c (leaveRemote dev none c) :=
    handsBack_leaveRemote hjustified.remote none
  have hlink : (leaveRemote dev none c).2.link = _ := (makes_leaveRemote none c).link_eq
  generalize leaveRemote dev none c = remote at *
  have hlocked : HandsBack dev remote.2.link _ remote.1 remote.2
      (leaveLocked dev remote.1 remote.2) :=
    handsBack_leaveLocked (by rw [hlink]; exact hjustified.locked) remote.1
  have hlink' : (leaveLocked dev remote.1 remote.2).2.link = _ :=
    (makes_leaveLocked remote.1 remote.2).link_eq
  generalize leaveLocked dev remote.1 remote.2 = unlocked at *
  have hreleased : HandsBack dev unlocked.2.link [.release] unlocked.1 unlocked.2
      (Link.step unlocked.1 (call dev (.release unlocked.2.link.interface)) unlocked.2) :=
    handsBack_release unlocked.1
  have hlink'' : (Link.step unlocked.1 (call dev (.release unlocked.2.link.interface))
      unlocked.2).2.link = unlocked.2.link := by
    rw [step_apply]
    rfl
  generalize Link.step unlocked.1 (call dev (.release unlocked.2.link.interface)) unlocked.2 =
    released at *
  have hreattached : HandsBack dev released.2.link _ released.1 released.2
      (reattach dev released.1 released.2) := handsBack_reattach released.1
  rw [hlink''] at hreattached
  rw [hlink'] at hreattached hreleased
  rw [hlink] at hreattached hreleased hlocked
  exact hremote.append (hlocked.relink.append (hreleased.relink.append hreattached.relink))

end Link

end Benchtop
