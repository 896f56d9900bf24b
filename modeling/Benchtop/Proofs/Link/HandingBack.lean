import Benchtop.Proofs.Link.Opening
import Benchtop.Proofs.Trace

/-!
# The calls of handing back

Handing back makes the same calls whatever they are answered: it gives back remote control if that was
taken, unlocks the front panel if it was locked, releases the interface, and returns it to the
operating system's driver if it was taken from that. So what every call of a device keeps, handing back
keeps, and so does making a link, which hands back what it cannot use (`respects_establish`).

Main statements: these calls and no others, in this order (`exists_trace_handBack`). A link that is made
settles by what it asks for, or by them (`exists_trace_settle`).
-/

namespace Benchtop.Link

open Usb Wire

variable {σ : Type} {dev : Device σ}

/-! ## Calls -/

/-- Giving back remote control. -/
def remoteCalls (link : Link) : List Call :=
  if link.remote && link.capabilities.remoteLocal then
    [link.requestCall .goToLocal 0, link.requestCall .remoteEnable 0]
  else []

/-- Unlocking the front panel. -/
def lockedCalls (link : Link) : List Call :=
  if link.locked && link.profile.isLockable then [link.requestCall .frontPanelLock 0] else []

/-- Releasing the interface, and returning it to the operating system's driver. -/
def releaseCalls (link : Link) : List Call :=
  .release link.interface :: if link.driverDetached then [.attachDriver link.interface] else []

/-- All calls of handing back. -/
def handBackCalls (link : Link) : List Call :=
  link.remoteCalls ++ link.lockedCalls ++ link.releaseCalls

/-! ## Actions that make the same calls whatever they are answered -/

/-- From `c` to `c'` the device has been asked `calls`, and what is left is `link`. -/
structure Makes (dev : Device σ) (calls : List Call) (link : Link) (c c' : Connection σ) : Prop where
  link_eq : c'.link = link
  exists_trace : ∃ events, dev.Trace c.device events c'.device ∧ events.map (·.call) = calls

theorem Makes.append {calls calls' : List Call} {link link' : Link} {c c' c'' : Connection σ}
    (h : Makes dev calls link c c') (h' : Makes dev calls' link' c' c'') :
    Makes dev (calls ++ calls') link' c c'' := by
  obtain ⟨events, ht, rfl⟩ := h.exists_trace
  obtain ⟨events', ht', rfl⟩ := h'.exists_trace
  exact ⟨h'.link_eq, events ++ events', ht.append ht', List.map_append⟩

theorem makes_nothing (c : Connection σ) : Makes dev [] c.link c c := ⟨rfl, [], rfl, rfl⟩

theorem makes_attempt (call : Call) (c : Connection σ) :
    Makes dev [call] c.link c (attempt dev call c).2 :=
  ⟨rfl, _, dev.trace_perform call c.device, rfl⟩

/-- The link may be changed afterwards. -/
theorem Makes.relink {calls : List Call} {link link' : Link} {c c' : Connection σ}
    (h : Makes dev calls link c c') : Makes dev calls link' c ⟨link', c'.device⟩ :=
  ⟨rfl, h.exists_trace⟩

/-- Whether the request gets an answer or not, the link stays but for the note. -/
theorem makes_setLock (on : Bool) (c : Connection σ) :
    Makes dev [c.link.requestCall .frontPanelLock (switchValue on)]
      { c.link with locked := if (setLock dev on c).1.isOk then on else c.link.locked } c
      (setLock dev on c).2 := by
  have h : Makes dev _ _ c (attempt dev _ c).2 :=
    makes_attempt (c.link.requestCall .frontPanelLock (switchValue on)) c
  rw [setLock_apply]
  rcases hr : attempt dev (c.link.requestCall .frontPanelLock (switchValue on)) c with ⟨e | _, c'⟩
    <;> rw [hr] at h
  · exact h
  · exact ⟨by rw [← h.link_eq]; rfl, h.exists_trace⟩

/-- The lock of an instrument that has one is switched by one request, which is noted. -/
theorem makes_setLock_of_ok {operation : String} {on : Bool} {c c' : Connection σ}
    (h : (requireLockable operation >>= fun _ => setLock dev on) c = (.ok (), c')) :
    c.link.profile.isLockable ∧
      Makes dev [c.link.requestCall .frontPanelLock (switchValue on)] { c.link with locked := on }
        c c' := by
  rw [requireLockable_bind_apply] at h
  by_cases hlockable : c.link.profile.isLockable
  · rw [if_pos hlockable] at h
    have hmakes : Makes dev _ _ c (setLock dev on c).2 := makes_setLock on c
    rw [h] at hmakes
    exact ⟨hlockable, hmakes⟩
  · rw [if_neg hlockable] at h
    cases h

/-! ## The steps of handing back -/

theorem leaveRemote_apply (failed : Option Failure) (c : Connection σ) :
    (leaveRemote dev failed c).2 =
      if c.link.remote then
        { (remoteControl dev false (goToLocal dev c).2).2 with link.remote := false }
      else c := by
  rw [leaveRemote, get_seq_apply]
  split
  · rw [seq_apply, step_apply, seq_apply, step_apply]
    rfl
  · rfl

theorem makes_leaveRemote (failed : Option Failure) (c : Connection σ) :
    Makes dev c.link.remoteCalls { c.link with remote := false } c
      (leaveRemote dev failed c).2 := by
  rw [leaveRemote_apply, remoteCalls]
  by_cases hremote : c.link.remote
  · by_cases hknown : c.link.capabilities.remoteLocal
    · have hgo : (goToLocal dev c).2 = (attempt dev (c.link.requestCall .goToLocal 0) c).2 := by
        rw [goToLocal_apply, if_pos hknown]
      have hgive := remoteControl_apply dev false (goToLocal dev c).2
      rw [hgo, if_pos (by exact hknown)] at hgive
      rw [if_pos hremote, hgo, hgive, hremote, hknown]
      exact ((makes_attempt _ c).append (makes_attempt _ _)).relink
    · have hgo : (goToLocal dev c).2 = c := by rw [goToLocal_apply, if_neg hknown]
      have hgive := remoteControl_apply dev false c
      rw [if_neg hknown] at hgive
      rw [if_pos hremote, hgo, hgive, hremote, Bool.true_and, if_neg hknown]
      exact (makes_nothing c).relink
  · have hnothing : Makes dev _ _ c c := makes_nothing c
    rw [Bool.not_eq_true] at hremote
    rw [hremote]
    rwa [show c.link = { c.link with remote := false } by rw [← hremote]] at hnothing

theorem leaveLocked_apply (failed : Option Failure) (c : Connection σ) :
    (leaveLocked dev failed c).2 =
      if c.link.locked then { (unlock dev c).2 with link.locked := false } else c := by
  rw [leaveLocked, get_seq_apply]
  split
  · rw [seq_apply, step_apply]
    rfl
  · rfl

theorem makes_leaveLocked (failed : Option Failure) (c : Connection σ) :
    Makes dev c.link.lockedCalls { c.link with locked := false } c
      (leaveLocked dev failed c).2 := by
  rw [leaveLocked_apply, lockedCalls]
  by_cases hlocked : c.link.locked
  · rw [if_pos hlocked, unlock, requireLockable_bind_apply, hlocked, Bool.true_and]
    by_cases hlockable : c.link.profile.isLockable
    · have h : Makes dev _ _ c (setLock dev false c).2 := makes_setLock false c
      rw [if_pos hlockable, if_pos hlockable]
      exact ⟨by dsimp only; rw [h.link_eq], h.exists_trace⟩
    · rw [if_neg hlockable, if_neg hlockable]
      exact (makes_nothing c).relink
  · have hnothing : Makes dev _ _ c c := makes_nothing c
    rw [Bool.not_eq_true] at hlocked
    rw [hlocked]
    rwa [show c.link = { c.link with locked := false } by rw [← hlocked]] at hnothing

theorem makes_reattach (failed : Option Failure) (c : Connection σ) :
    Makes dev (if c.link.driverDetached then [.attachDriver c.link.interface] else [])
      (reattach dev failed c).2.link c (reattach dev failed c).2 := by
  refine ⟨rfl, ?_⟩
  rw [reattach_apply]
  split
  · exact (makes_attempt _ c).exists_trace
  · exact (makes_nothing c).exists_trace

/-- Handing back asks for the same whatever it is answered. -/
theorem exists_trace_handBack (dev : Device σ) (c : Connection σ) :
    ∃ events, dev.Trace c.device events (handBack dev c).2.device ∧
      events.map (·.call) = c.link.handBackCalls := by
  rw [handBack_apply]
  dsimp only
  have hremote : Makes dev _ _ c (leaveRemote dev none c).2 := makes_leaveRemote none c
  generalize leaveRemote dev none c = remote at *
  have hlocked : Makes dev _ _ remote.2 (leaveLocked dev remote.1 remote.2).2 :=
    makes_leaveLocked remote.1 remote.2
  generalize leaveLocked dev remote.1 remote.2 = unlocked at *
  have hreleased : Makes dev [.release unlocked.2.link.interface] unlocked.2.link unlocked.2
      (step unlocked.1 (call dev (.release unlocked.2.link.interface)) unlocked.2).2 := by
    rw [step_apply]
    exact makes_attempt _ _
  generalize step unlocked.1 (call dev (.release unlocked.2.link.interface)) unlocked.2 =
    released at *
  have hreattached : Makes dev _ _ released.2 (reattach dev released.1 released.2).2 :=
    makes_reattach released.1 released.2
  rw [hreleased.link_eq] at hreattached
  rw [hlocked.link_eq] at hreleased hreattached
  rw [hremote.link_eq] at hlocked hreleased hreattached
  obtain ⟨events, ht, hcalls⟩ :=
    (hremote.append (hlocked.append (hreleased.append hreattached))).exists_trace
  exact ⟨events, ht, hcalls.trans (List.append_assoc ..).symm⟩

/-- What holds of the requests, of the release and of the return to the driver holds of all calls of handing
back. -/
theorem forall_mem_handBackCalls {p : Call → Prop} {link : Link}
    (hrequest : ∀ r ∈ [Request.goToLocal, .remoteEnable, .frontPanelLock], p (link.requestCall r 0))
    (hrelease : p (.release link.interface)) (hattach : p (.attachDriver link.interface)) :
    ∀ call ∈ link.handBackCalls, p call := by
  refine List.forall_mem_append.2 ⟨List.forall_mem_append.2 ⟨?remote, ?locked⟩, ?release⟩
  case remote =>
    unfold remoteCalls
    split
    · exact List.forall_mem_cons.2 ⟨hrequest .goToLocal (by simp),
        List.forall_mem_singleton.2 (hrequest .remoteEnable (by simp))⟩
    · exact List.forall_mem_nil _
  case locked =>
    unfold lockedCalls
    split
    · exact List.forall_mem_singleton.2 (hrequest .frontPanelLock (by simp))
    · exact List.forall_mem_nil _
  case release =>
    unfold releaseCalls
    refine List.forall_mem_cons.2 ⟨hrelease, ?_⟩
    split
    · exact List.forall_mem_singleton.2 hattach
    · exact List.forall_mem_nil _

/-- A link is settled by what it asks for, before it has learned of the device and afterwards, and handed
back by the calls for that. -/
theorem exists_trace_settle (dev : Device σ) (link : Link) (usb488 lockout : Bool) (s : σ) :
    ∃ events, dev.Trace s events (settle dev link usb488 lockout s).2 ∧
      ∀ e ∈ events, (∃ other, link.SameClaim other ∧ other.AsksFor RemoteRequest e.call) ∨
        e.call ∈ link.handBackCalls := by
  have hasked := dev.trace_perform link.capabilitiesCall s
  rcases settle_cases dev link usb488 lockout s with
    ⟨e, he⟩ | ⟨c, hc, bytes, capabilities, -, -, hm⟩
  · obtain ⟨events, ht, hcalls⟩ :=
      exists_trace_handBack dev ⟨link, (dev.perform link.capabilitiesCall s).2⟩
    rw [he]
    refine ⟨_, hasked.append ht, List.forall_mem_append.2 ⟨?_, fun e he => ?_⟩⟩
    · exact List.forall_mem_singleton.2 (.inl ⟨link, rfl, .capabilities⟩)
    · exact .inr (hcalls ▸ List.mem_map_of_mem he)
  · obtain ⟨events, ht, hasks⟩ := hm.exists_trace
    rw [hc]
    refine ⟨_, hasked.append ht, List.forall_mem_append.2 ⟨?_, fun e he => ?_⟩⟩
    · exact List.forall_mem_singleton.2 (.inl ⟨link, rfl, .capabilities⟩)
    · exact .inl ⟨link.learned capabilities, rfl, hasks e he⟩

/-! ## What every call respects -/

section

variable {r : σ → σ → Prop} [Std.Refl r] [IsTrans σ r]

theorem related_handBack (h : ∀ call, Respects r (dev.perform call)) (c : Connection σ) :
    r c.device (handBack dev c).2.device := by
  obtain ⟨events, ht, -⟩ := exists_trace_handBack dev c
  exact ht.related h

/-- A link is made by calls that are no traffic, and settled then. -/
theorem respects_establish_of_settle {info : DeviceInfo} {settings : Settings}
    (hquiet : ∀ call, ¬ call.isTraffic → Respects r (dev.call call))
    (hsettle : ∀ interface endpoints detached, Respects r
      (settle dev (fresh info settings interface endpoints detached)
        (interface.protocol == usb488Protocol) settings.localLockout)) :
    Respects r (establish dev info settings) := by
  refine (respects_chooseConfiguration
    (fun value => hquiet (.setConfiguration value) Bool.false_ne_true) _).bind fun _ => ?_
  refine (respects_ofExcept _).bind fun interface => (respects_ofExcept _).bind fun endpoints => ?_
  refine (hquiet (.detachDriver _) Bool.false_ne_true).bind fun detached => ?_
  exact (respects_claim (hquiet (.claim _ _) Bool.false_ne_true)
    (hquiet (.attachDriver _) Bool.false_ne_true) detached).bind fun _ =>
      hsettle interface endpoints detached

/-- What every call of a device respects, the making of a link does. -/
theorem respects_establish (h : ∀ call, Respects r (dev.perform call)) (info : DeviceInfo)
    (settings : Settings) : Respects r (establish dev info settings) := by
  refine respects_establish_of_settle (fun call _ s => h call s) fun _ _ _ s => ?_
  obtain ⟨events, ht, -⟩ := exists_trace_settle dev _ _ _ s
  exact ht.related h

end

end Benchtop.Link
