import Benchtop.CommandLine.Program
import Benchtop.Host.Bus
import Benchtop.Proofs.Link.HandingBack
import Benchtop.Proofs.Session.Run
import Benchtop.Settings.Toml

/-!
# The front panel after a run of the program

A run of the program opens an instrument, makes its command and closes it, and closing unlocks a front
panel that is still locked. So the two commands that switch the lock end alike: the last lock request
of a run that ends well unlocks (`endsUnlocked_program`).

Taking and giving back remote control has the code of a lock request, and counts as one here.
-/

namespace Benchtop

open Usb Wire Link CommandLine

variable {σ : Type} {bus : Bus σ}

/-! ## Lock requests -/

/-- The value of a lock request. -/
def Usb.Call.lockValue? : Call → Option UInt16
  | .controlIn ⟨.ofClass, .interface, request, value, _⟩ _ _ =>
    if request = Request.frontPanelLock.code then some value else none
  | _ => none

/-- The value of a lock request to a device of the bus. -/
def Usb.BusEvent.lockValue? : BusEvent → Option UInt16
  | .call _ e => e.call.lockValue?
  | _ => none

/-- Handing back unlocks a locked front panel last. -/
theorem Link.lockValues_handBackCalls (link : Link) :
    link.handBackCalls.filterMap Call.lockValue? =
      (if link.remote && link.capabilities.remoteLocal then [0] else []) ++
        if link.locked && link.profile.isLockable then [0] else [] := by
  have hremote : link.remoteCalls.filterMap Call.lockValue? =
      if link.remote && link.capabilities.remoteLocal then [0] else [] := by
    unfold remoteCalls
    split <;> rfl
  have hlocked : link.lockedCalls.filterMap Call.lockValue? =
      if link.locked && link.profile.isLockable then [0] else [] := by
    unfold lockedCalls
    split <;> rfl
  have hrelease : link.releaseCalls.filterMap Call.lockValue? = [] := by
    unfold releaseCalls
    split <;> rfl
  rw [handBackCalls, List.filterMap_append, List.filterMap_append, hremote, hlocked, hrelease,
    List.append_nil]

/-- The lock values in the record of a trace are those of its calls. -/
theorem Usb.Device.Trace.lockValues_eq {number : Nat} {s t : σ × List BusEvent} {es : List Event}
    (h : (bus.recorded.device number).Trace s es t) :
    t.2.filterMap BusEvent.lockValue? =
      s.2.filterMap BusEvent.lockValue? ++ (es.map (·.call)).filterMap Call.lockValue? := by
  rw [h.busLog_eq, List.filterMap_append, List.filterMap_map, List.filterMap_map]
  rfl

/-! ## Sessions -/

namespace Session

/-- Closing makes the lock requests of handing back. -/
theorem lockValues_close {b : Bench (σ × List BusEvent)} {opened : OpenedDevice}
    (ho : b.session.opened = some opened) :
    (close bus.recorded b).2.bus.2.filterMap BusEvent.lockValue? =
      b.bus.2.filterMap BusEvent.lockValue? ++
        opened.link.handBackCalls.filterMap Call.lockValue? := by
  obtain ⟨events, ht, hcalls⟩ :=
    exists_trace_handBack (bus.recorded.device opened.handle) ⟨opened.link, b.bus⟩
  rw [close_apply, ho]
  change List.filterMap _ (_ ++ [BusEvent.letGo opened.handle]) = _
  rw [List.filterMap_append, ht.lockValues_eq, hcalls]
  exact List.append_nil _

end Session

/-! ## Runs of the program -/

namespace CommandLine

/-- The command that locks or unlocks the front panel. -/
def DeviceCommand.switchLock (on : Bool) : DeviceCommand := if on then .lock else .unlock

/-- An operation that prints nothing and succeeds. -/
theorem eq_ok_of_silent {action : Action (Bench σ) Unit} {b b' : Bench σ} {output : List UInt8}
    (h : DeviceCommand.perform.silent action b = (.ok output, b')) : action b = (.ok (), b') := by
  rw [DeviceCommand.perform.silent, bind_apply, adapt_apply] at h
  rcases hr : action b with ⟨_ | _, u⟩ <;> rw [hr] at h
  · cases h
  · cases h
    rfl

/-- A command that switches the lock and succeeds has made one lock request, and the link knows. -/
theorem exists_of_switchLock_eq_ok {on : Bool} {b b' : Bench (σ × List BusEvent)}
    {output : List UInt8}
    (h : (DeviceCommand.switchLock on).perform bus.recorded b = (.ok output, b')) :
    ∃ opened, b'.session.opened = some opened ∧ opened.link.profile.isLockable ∧
      opened.link.locked = on ∧
      b'.bus.2.filterMap BusEvent.lockValue? =
        b.bus.2.filterMap BusEvent.lockValue? ++ [switchValue on] := by
  have hsilent : DeviceCommand.perform.silent (Session.onLink bus.recorded fun dev =>
      requireLockable (if on then "lock" else "unlock") >>= fun _ => setLock dev on) b =
        (.ok output, b') := by
    rw [← h]
    cases on <;> rfl
  obtain ⟨opened, c, hswitch, rfl⟩ := Session.exists_of_onLink_eq_ok (eq_ok_of_silent hsilent)
  obtain ⟨hlockable, hmakes⟩ := makes_setLock_of_ok hswitch
  obtain ⟨events, ht, hcalls⟩ := hmakes.exists_trace
  refine ⟨{ opened with link := c.link }, rfl, ?_, ?_, ?_⟩
  · rw [hmakes.link_eq]
    exact hlockable
  · rw [hmakes.link_eq]
  · rw [ht.lockValues_eq, hcalls]
    rfl

/-- A run that ends well has opened the instrument, made the command and closed the session. -/
theorem exists_of_runDevice_exit {settings : Settings} {resource : Resource}
    {command : DeviceCommand} {s : σ} (h : (runDevice bus settings resource command s).1.exit = 0) :
    ∃ b b' output, command.perform bus b = (.ok output, b') ∧
      (runDevice bus settings resource command s).2 = (Session.close bus b').2.bus := by
  unfold runDevice ExceptT.run at *
  rcases ho : Session.openUp bus ⟨{ resource, settings }, s⟩ with ⟨_ | _, b⟩ <;> rw [ho] at h
  · cases h
  · rcases hc : command.perform bus b with ⟨_ | output, b'⟩ <;> simp only [hc] at h
    · cases h
    · refine ⟨b, b', output, hc, ?_⟩
      simp only [hc]
      rcases Session.close bus b' with ⟨_ | _, b''⟩ <;> rfl

/-- Among the values of lock requests there is the one that switches the lock. Those after it unlock
the front panel, and it is unlocked in the end. -/
def EndsUnlocked (on : Bool) (values : List UInt16) : Prop :=
  ∃ before after, values = before ++ switchValue on :: after ∧ (∀ v ∈ after, v = 0) ∧
    values.getLast? = some 0

theorem endsUnlocked_runDevice {on : Bool} {settings : Settings} {resource : Resource}
    {s : σ × List BusEvent}
    (h : (runDevice bus.recorded settings resource (.switchLock on) s).1.exit = 0) :
    EndsUnlocked on ((runDevice bus.recorded settings resource (.switchLock on) s).2.2.filterMap
      BusEvent.lockValue?) := by
  obtain ⟨b, b', output, hperform, hrun⟩ := exists_of_runDevice_exit h
  obtain ⟨opened, ho, hlockable, hlocked, hvalues⟩ := exists_of_switchLock_eq_ok hperform
  rw [hrun, Session.lockValues_close ho, hvalues, lockValues_handBackCalls, hlockable, hlocked,
    Bool.and_true, List.append_assoc, List.singleton_append]
  refine ⟨_, _, rfl, ?_, ?_⟩
  · grind
  · split <;> cases on <;> simp [switchValue]

/-- A run of the program that is to lock or unlock the front panel, and ends well, has sent the request
for that and left the front panel unlocked: what it locks, it unlocks when it closes the session. -/
theorem endsUnlocked_program (library : Settings.Library) (bus : Bus σ)
    (content : String → Option (List UInt8)) {arguments : List String} {invocation : Invocation}
    {on : Bool} (start : σ) (hparse : parse arguments = .ok invocation)
    (hcommand : invocation.command = .device (.switchLock on))
    (hexit : (program library bus.recorded content arguments (start, [])).1.exit = 0) :
    EndsUnlocked on ((program library bus.recorded content arguments (start, [])).2.2.filterMap
      BusEvent.lockValue?) := by
  rw [program, hparse] at hexit ⊢
  dsimp only [Invocation.run, ExceptT.run] at hexit ⊢
  rw [hcommand] at hexit ⊢
  dsimp only at hexit ⊢
  rcases hs : settingsFor library invocation (invocation.config.bind content) with e | settings <;>
    rw [hs] at hexit
  · cases hexit
  · dsimp only at hexit ⊢
    rcases hr : pickResource bus.recorded invocation.resource (start, []) with ⟨e | resource, s⟩ <;>
      rw [hr] at hexit
    · cases hexit
    · exact endsUnlocked_runDevice hexit

/-! ## A host with one lockable instrument -/

/-- A lockable instrument that answers the requests it gets. -/
def lockablePeripheral : Host.Peripheral :=
  let endpoints : List Endpoint := [⟨2, .bulk, .output, 64⟩, ⟨129, .bulk, .input, 64⟩]
  { Host.Peripheral.plugged ⟨0x1334, 1, none, "1", 2, []⟩ [⟨1, [⟨0, 0, 254, 3, 0, endpoints⟩]⟩] with
    controlDefaults :=
      [(Request.frontPanelLock.code, [1]),
        (Request.getCapabilities.code, 1 :: 0 :: 0 :: 1 :: List.replicate 20 0)] }

/-- A run of the program on a host that has just this instrument. -/
def lockableRun (arguments : List String) : RunResult × HostBus × List BusEvent :=
  program .toml HostBus.behaviour.recorded (fun _ => none) arguments
    ({ host := { peripherals := [lockablePeripheral] } }, [])

/-- Both commands end well, and with an unlocked front panel. -/
theorem endsUnlocked_lockableRun :
    ((lockableRun ["lock"]).1.exit = 0 ∧
        EndsUnlocked true ((lockableRun ["lock"]).2.2.filterMap BusEvent.lockValue?)) ∧
      (lockableRun ["unlock"]).1.exit = 0 ∧
        EndsUnlocked false ((lockableRun ["unlock"]).2.2.filterMap BusEvent.lockValue?) := by
  have hlock : (lockableRun ["lock"]).1.exit = 0 := by decide +kernel
  have hunlock : (lockableRun ["unlock"]).1.exit = 0 := by decide +kernel
  exact ⟨⟨hlock, endsUnlocked_program .toml HostBus.behaviour _ _ rfl rfl hlock⟩,
    hunlock, endsUnlocked_program .toml HostBus.behaviour _ _ rfl rfl hunlock⟩

/-- The command to lock ends well, and its last lock request does not lock. -/
theorem lock_lockableRun :
    (lockableRun ["lock"]).1.exit = 0 ∧
      (lockableRun ["lock"]).2.2.filterMap BusEvent.lockValue? = [1, 0] ∧
      ((lockableRun ["lock"]).2.2.filterMap BusEvent.lockValue?).getLast? ≠ some 1 := by
  decide +kernel

end CommandLine

end Benchtop
