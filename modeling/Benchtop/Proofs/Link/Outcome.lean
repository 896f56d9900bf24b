import Benchtop.Proofs.Link.Choices
import Benchtop.Proofs.Link.HandingBack
import Benchtop.Scripted.Bus

/-!
# The outcome of opening

A device is opened by a few calls in a fixed order: its configuration is set, if that has to be, its
interface is taken from the operating system and claimed, and it is asked for its capabilities. Opening
succeeds exactly if there is something to choose and these calls succeed, the last of them with an answer
that tells the capabilities (`Prepared`). Then remote control is asked for where there is such a thing, and
nothing but `Link.remote` depends on what is answered to that (`TakesRemote`).

Main statement: `establish_outcome`.
-/

namespace Benchtop

open Usb Wire

/-- The configuration that a call sets. -/
def Usb.Call.configured? : Call → Option UInt8
  | .setConfiguration value => some value
  | _ => none

theorem Usb.Call.configured?_of_isTraffic {call : Call} (h : call.isTraffic) :
    call.configured? = none := by
  cases call <;> first | rfl | cases h

namespace Link

variable {σ : Type} {dev : Device σ}

/-! ## Remote control -/

/-- The calls that take remote control, with their answers, and whether it is noted. The front panel is
locked out, if that is asked for, once remote control is granted; the answer does not matter. -/
inductive TakesRemote (link : Link) (lockout : Bool) : List Event → Bool → Prop
  | unknown (h : ¬ link.capabilities.remoteLocal) : TakesRemote link lockout [] false
  | refused (h : link.capabilities.remoteLocal) {answer : Except BusError (List UInt8)}
    (hrefused : requestFailure? .remoteEnable answer ≠ none) :
    TakesRemote link lockout [⟨link.requestCall .remoteEnable 1, answer⟩] false
  | granted (h : link.capabilities.remoteLocal) {answer : Except BusError (List UInt8)}
    (hgranted : requestFailure? .remoteEnable answer = none) (hlockout : lockout = false) :
    TakesRemote link lockout [⟨link.requestCall .remoteEnable 1, answer⟩] true
  | lockedOut (h : link.capabilities.remoteLocal) {answer : Except BusError (List UInt8)}
    (hgranted : requestFailure? .remoteEnable answer = none) (hlockout : lockout = true)
    (answer' : Except BusError (List UInt8)) :
    TakesRemote link lockout
      [⟨link.requestCall .remoteEnable 1, answer⟩, ⟨link.requestCall .localLockout 0, answer'⟩] true

/-- A failure may be passed over. -/
theorem tryCatch_pass (x : Exchange σ Unit) (c : Connection σ) :
    tryCatch x (fun _ => pure ()) c = (.ok (), (x c).2) := by
  rw [tryCatch_apply]
  rcases x c with ⟨_ | _, _⟩ <;> rfl

/-- Taking remote control succeeds, whatever is answered. -/
theorem takeRemote_cases (dev : Device σ) {link : Link} (hremote : link.remote = false)
    (lockout : Bool) (s : σ) :
    ∃ events remote t, TakesRemote link lockout events remote ∧ dev.Trace s events t ∧
      takeRemote dev lockout ⟨link, s⟩ = (.ok (), ⟨{ link with remote }, t⟩) := by
  have hlink : { link with remote := false } = link := by rw [← hremote]
  rw [takeRemote, get_bind_apply]
  by_cases h : link.capabilities.remoteLocal
  · rw [if_pos h, tryCatch_pass]
    rcases hasked : dev.perform (link.requestCall .remoteEnable 1) s with ⟨answer, t⟩
    have hmade : attempt dev (link.requestCall .remoteEnable (switchValue true)) ⟨link, s⟩ =
        (answer, ⟨link, t⟩) := attempt_of_perform hasked
    have hremote : remoteControl dev true ⟨link, s⟩ = _ := remoteControl_eq true h
    cases hanswer : requestFailure? .remoteEnable answer with
    | some failure =>
      simp only [hmade, hanswer] at hremote
      have hrefused : requestFailure? .remoteEnable answer ≠ none := by simp [hanswer]
      rw [bind_of_error hremote]
      exact ⟨_, false, t, .refused h hrefused, ⟨t, hasked, rfl⟩, by rw [hlink]⟩
    | none =>
      simp only [hmade, hanswer] at hremote
      rw [bind_of_ok hremote]
      cases lockout with
      | false => exact ⟨_, true, t, .granted h hanswer rfl, ⟨t, hasked, rfl⟩, rfl⟩
      | true =>
        have hlocked := dev.trace_perform (link.requestCall .localLockout 0) t
        refine ⟨_, true, _, .lockedOut h hanswer rfl _, ⟨t, hasked, hlocked⟩, ?_⟩
        rw [if_pos rfl, localLockout, requireRemoteLocal_bind_apply, if_pos (by exact h), request_apply]
        rfl
  · rw [if_neg h]
    exact ⟨[], false, s, .unknown h, rfl, by rw [hlink]; rfl⟩

/-! ## The calls of opening -/

theorem claim_eq_ok_iff {interface : Interface} {detached : Bool} {s t : σ} :
    claim dev interface detached s = (.ok (), t) ↔
      dev.Trace s [⟨.claim interface.number interface.alternate, .ok ()⟩] t := by
  unfold claim
  constructor
  · intro h
    split at h
    · next u hu =>
      cases h
      exact ⟨_, hu, rfl⟩
    · cases h
  · rintro ⟨u, hu, rfl⟩
    simp only [hu]

/-- A link is settled if its device tells the capabilities. What is not settled by that is remote
control. -/
theorem settle_of_tells {link : Link} {usb488 : Bool} {bytes : List UInt8} {capabilities : Capabilities}
    (hremote : link.remote = false) (lockout : Bool) {s t : σ}
    (ht : dev.Trace s [⟨link.capabilitiesCall, .ok bytes⟩] t)
    (hparse : Capabilities.parse bytes usb488 = .ok capabilities) :
    ∃ events remote u, TakesRemote (link.learned capabilities) lockout events remote ∧
      dev.Trace t events u ∧
      settle dev link usb488 lockout s = (.ok { link.learned capabilities with remote }, u) := by
  obtain ⟨v, hv, rfl⟩ := ht
  have hlearned : (link.learned capabilities).remote = false := hremote
  obtain ⟨events, remote, u, htakes, hu, h⟩ := takeRemote_cases dev hlearned lockout v
  refine ⟨events, remote, u, htakes, hu, ?_⟩
  rw [settle_apply, negotiate_apply, attempt_of_perform hv]
  simp only [hparse, h]

namespace Choice

/-- The link that is made with the choice. -/
def link (choice : Choice) (info : DeviceInfo) (settings : Settings) (detached : Bool) : Link :=
  fresh info settings choice.interface choice.endpoints detached

/-- The calls that a device is opened by, all of them with success: the configuration is set where it has
to be, the interface is taken from the operating system and claimed, and the device tells its capabilities.
-/
def preparation (choice : Choice) (link : Link) (sets : Bool) (bytes : List UInt8) : List Event :=
  setting sets choice.configuration.value ++
    [⟨.detachDriver choice.interface.number, .ok link.driverDetached⟩,
      ⟨.claim choice.interface.number choice.interface.alternate, .ok ()⟩,
      ⟨link.capabilitiesCall, .ok bytes⟩]

end Choice

/-- In the state `s`, the device lets itself be opened with this choice, and comes to `t` by that. -/
structure Prepared (dev : Device σ) (info : DeviceInfo) (settings : Settings) (s : σ) (choice : Choice)
    (detached : Bool) (bytes : List UInt8) (t : σ) : Prop where
  isFor : choice.IsFor dev info s
  trace : dev.Trace s (choice.preparation (choice.link info settings detached)
    (reconfigures dev settings.forceReconfigure s) bytes) t
  tells : Tells (choice.interface.protocol == usb488Protocol) bytes

variable {info : DeviceInfo} {settings : Settings} {s : σ}

/-- Recording changes nothing of that. -/
theorem Prepared.recorded {choice : Choice} {detached : Bool} {bytes : List UInt8} {t : σ}
    (h : Prepared dev info settings s choice detached bytes t) (log : List Event) :
    Prepared dev.recorded info settings (s, log) choice detached bytes
      (t, log ++ choice.preparation (choice.link info settings detached)
        (reconfigures dev settings.forceReconfigure s) bytes) :=
  ⟨⟨h.isFor.value_eq, h.isFor.configuration, h.isFor.interface, h.isFor.endpoints⟩,
    h.trace.recorded log, h.tells⟩

theorem Prepared.of_recorded {choice : Choice} {detached : Bool} {bytes : List UInt8}
    {log : List Event} {t : σ × List Event}
    (h : Prepared dev.recorded info settings (s, log) choice detached bytes t) :
    Prepared dev info settings s choice detached bytes t.1 :=
  ⟨⟨h.isFor.value_eq, h.isFor.configuration, h.isFor.interface, h.isFor.endpoints⟩,
    h.trace.of_recorded, h.tells⟩

/-- A device that has been opened has let itself be opened. -/
theorem exists_prepared_of_establish {link : Link} {u : σ}
    (h : establish dev info settings s = (.ok link, u)) :
    ∃ choice detached bytes t, Prepared dev info settings s choice detached bytes t := by
  obtain ⟨configuration, s₁, hconfiguration, h⟩ := exists_of_bind_eq_ok h
  obtain ⟨interface, s₂, hinterface, h⟩ := exists_of_bind_eq_ok h
  obtain ⟨endpoints, s₃, hendpoints, h⟩ := exists_of_bind_eq_ok h
  obtain ⟨detached, s₄, hdetached, h⟩ := exists_of_bind_eq_ok h
  obtain ⟨_, s₅, hclaim, hsettle⟩ := exists_of_bind_eq_ok h
  obtain ⟨hvalue, hfirst, ht⟩ := chooseConfiguration_eq_ok_iff.1 hconfiguration
  obtain ⟨hchosen, rfl⟩ := Prod.mk.inj ((ofExcept_apply _ _).symm.trans hinterface)
  obtain ⟨hfitting, rfl⟩ := Prod.mk.inj ((ofExcept_apply _ _).symm.trans hendpoints)
  rcases settle_cases dev (fresh info settings interface endpoints detached)
    (interface.protocol == usb488Protocol) settings.localLockout s₅ with
    ⟨e, hs⟩ | ⟨c, hs, bytes, capabilities, hanswer, hparse, -⟩
  · cases hs.symm.trans hsettle
  · have hasked := dev.trace_perform
      (fresh info settings interface endpoints detached).capabilitiesCall s₅
    rw [hanswer] at hasked
    have hopened := ht.append ((Device.call_eq_ok_iff.1 hdetached).append
      ((claim_eq_ok_iff.1 hclaim).append hasked))
    exact ⟨⟨configuration, interface, endpoints⟩, detached, bytes, _,
      ⟨hvalue, hfirst, chooseInterface_eq_ok_iff.1 hchosen, findEndpoints_eq_ok_iff.1 hfitting⟩,
      hopened, tells_of_parse hparse⟩

/-- A device that lets itself be opened is opened, whatever it says to remote control. -/
theorem Prepared.establish_eq {choice : Choice} {detached : Bool} {bytes : List UInt8} {t : σ}
    (h : Prepared dev info settings s choice detached bytes t) :
    ∃ capabilities events remote u,
      Capabilities.parse bytes (choice.interface.protocol == usb488Protocol) = .ok capabilities ∧
      TakesRemote ((choice.link info settings detached).learned capabilities) settings.localLockout
        events remote ∧
      dev.Trace t events u ∧
      establish dev info settings s =
        (.ok { (choice.link info settings detached).learned capabilities with remote }, u) := by
  obtain ⟨capabilities, hparse⟩ := h.tells.exists_parse
  obtain ⟨s₁, hset, ht⟩ := h.trace.of_append
  obtain ⟨s₂, hdetached, s₃, hclaimed, htold⟩ := ht
  obtain ⟨events, remote, u, htakes, hu, hsettle⟩ :=
    settle_of_tells rfl settings.localLockout htold hparse
  refine ⟨capabilities, events, remote, u, hparse, htakes, hu, ?_⟩
  have hconfiguration := chooseConfiguration_eq_ok_iff.2 ⟨h.isFor.value_eq, h.isFor.configuration, hset⟩
  have hinterface := chooseInterface_eq_ok_iff.2 h.isFor.interface
  have hendpoints := findEndpoints_eq_ok_iff.2 h.isFor.endpoints
  rw [establish, bind_of_ok hconfiguration, hinterface, bind_of_ok (ofExcept_apply _ _), hendpoints,
    bind_of_ok (ofExcept_apply _ _), bind_of_ok (Device.call_eq_ok_iff.2 ⟨_, hdetached, rfl⟩),
    bind_of_ok (claim_eq_ok_iff.2 ⟨_, hclaimed, rfl⟩)]
  exact hsettle

/-! ## Setting the configuration -/

/-- The device's configuration has not been set. -/
def Unconfigured (dev : Device σ) (s t : σ) : Prop :=
  ∃ events, dev.Trace s events t ∧ ∀ e ∈ events, e.call.configured? = none

instance : Std.Refl (Unconfigured dev) where
  refl _ := ⟨[], rfl, List.forall_mem_nil _⟩

instance : IsTrans σ (Unconfigured dev) where
  trans _ _ _ := by
    rintro ⟨events, ht, he⟩ ⟨events', ht', he'⟩
    exact ⟨events ++ events', ht.append ht', List.forall_mem_append.2 ⟨he, he'⟩⟩

theorem unconfigured_call {call : Call} (h : call.configured? = none) :
    Respects (Unconfigured dev) (dev.call call) :=
  fun s => ⟨_, dev.trace_perform call s, List.forall_mem_singleton.2 h⟩

theorem configured?_of_mem_handBackCalls {link : Link} :
    ∀ call ∈ link.handBackCalls, call.configured? = none :=
  forall_mem_handBackCalls (fun _ _ => rfl) rfl rfl

theorem unconfigured_settle (link : Link) (usb488 lockout : Bool) :
    Respects (Unconfigured dev) (settle dev link usb488 lockout) := by
  intro s
  obtain ⟨events, ht, hcalls⟩ := exists_trace_settle dev link usb488 lockout s
  refine ⟨events, ht, fun e he => ?_⟩
  rcases hcalls e he with ⟨_, -, hasks⟩ | h
  · exact Usb.Call.configured?_of_isTraffic hasks.isTraffic
  · exact configured?_of_mem_handBackCalls e.call h

theorem exists_trace_chooseConfiguration (dev : Device σ) (force : Bool) (s : σ) :
    ∃ events, dev.Trace s events (chooseConfiguration dev force s).2 ∧
      events.filterMap (·.call.configured?) =
        if reconfigures dev force s then (configurationValue? dev s).toList else [] := by
  rw [chooseConfiguration_apply]
  cases hvalue : configurationValue? dev s with
  | none => exact ⟨[], rfl, by simp⟩
  | some value =>
    dsimp only
    by_cases hset : reconfigures dev force s
    · rw [if_pos hset, if_pos hset, Device.call]
      rcases hperform : dev.perform (.setConfiguration value) s with ⟨answer, t⟩
      have ht : dev.Trace s [⟨.setConfiguration value, answer⟩] t := ⟨t, hperform, rfl⟩
      refine ⟨[⟨.setConfiguration value, answer⟩], ?_, rfl⟩
      cases answer <;> exact ht
    · rw [if_neg hset, if_neg hset]
      exact ⟨[], rfl, rfl⟩

/-- The configuration is set at most once, where it has to be and there is a value for it. -/
theorem exists_trace_establish (dev : Device σ) (info : DeviceInfo) (settings : Settings) (s : σ) :
    ∃ events, dev.Trace s events (establish dev info settings s).2 ∧
      events.filterMap (·.call.configured?) =
        if reconfigures dev settings.forceReconfigure s then (configurationValue? dev s).toList
        else [] := by
  obtain ⟨events, ht, hconfigured⟩ := exists_trace_chooseConfiguration dev settings.forceReconfigure s
  have hrest : Unconfigured dev (chooseConfiguration dev settings.forceReconfigure s).2
      (establish dev info settings s).2 := by
    rw [establish, bind_apply]
    rcases chooseConfiguration dev settings.forceReconfigure s with ⟨e | configuration, t⟩
    · exact refl_of _ t
    · refine ((respects_ofExcept _).bind fun interface => (respects_ofExcept _).bind fun endpoints =>
        (unconfigured_call rfl).bind fun detached => ?_) t
      exact (respects_claim (unconfigured_call rfl) (unconfigured_call rfl) detached).bind fun _ =>
        unconfigured_settle _ _ _
  obtain ⟨rest, hu, hnone⟩ := hrest
  have hrest : rest.filterMap (·.call.configured?) = [] := List.filterMap_eq_nil_iff.2 hnone
  exact ⟨events ++ rest, ht.append hu, by rw [List.filterMap_append, hconfigured, hrest, List.append_nil]⟩

/-! ## The outcome -/

/-- A device is opened exactly if it lets itself be opened with what it describes first. The link that is
made has what was chosen and what the device has told, and remote control if that was granted. Whatever
comes of it, the configuration is set exactly if none is active or that is forced, to the active value or
else to the first that is described. -/
theorem establish_outcome (dev : Device σ) (info : DeviceInfo) (settings : Settings) (s : σ)
    (log : List Event) :
    let made := establish dev.recorded info settings (s, log)
    (made.1.isOk ↔ ∃ choice detached bytes t, Prepared dev info settings s choice detached bytes t) ∧
    (∀ choice detached bytes t, Prepared dev info settings s choice detached bytes t →
      ∃ capabilities events remote u,
        Capabilities.parse bytes (choice.interface.protocol == usb488Protocol) = .ok capabilities ∧
        TakesRemote ((choice.link info settings detached).learned capabilities) settings.localLockout
          events remote ∧
        made = (.ok { (choice.link info settings detached).learned capabilities with remote },
          (u, log ++ choice.preparation (choice.link info settings detached)
            (reconfigures dev settings.forceReconfigure s) bytes ++ events))) ∧
    ∃ events, made.2.2 = log ++ events ∧
      events.filterMap (·.call.configured?) =
        if reconfigures dev settings.forceReconfigure s then (configurationValue? dev s).toList
        else [] := by
  intro made
  refine ⟨⟨fun h => ?_, ?_⟩, fun choice detached bytes t h => ?_, ?_⟩
  · obtain ⟨link, hlink⟩ : ∃ link, made.1 = .ok link := by
      cases hmade : made.1 with
      | error e => rw [hmade] at h; cases h
      | ok link => exact ⟨link, rfl⟩
    obtain ⟨choice, detached, bytes, t, h⟩ := exists_prepared_of_establish (Prod.ext hlink rfl)
    exact ⟨choice, detached, bytes, t.1, h.of_recorded⟩
  · rintro ⟨choice, detached, bytes, t, h⟩
    obtain ⟨capabilities, events, remote, u, -, -, -, hmade⟩ := (h.recorded log).establish_eq
    rw [show made = _ from hmade]
    rfl
  · obtain ⟨capabilities, events, remote, u, hparse, htakes, hu, hmade⟩ := (h.recorded log).establish_eq
    refine ⟨capabilities, events, remote, u.1, hparse, htakes, ?_⟩
    obtain ⟨u, log'⟩ := u
    obtain rfl := hu.log_eq
    exact hmade
  · obtain ⟨events, ht, hconfigured⟩ := exists_trace_establish dev.recorded info settings (s, log)
    exact ⟨events, ht.log_eq, hconfigured⟩

/-- An instrument between other interfaces: an alternate setting of the instrument class, a mass storage,
and the instrument. -/
def mixedConfiguration : Configuration where
  value := 2
  interfaces :=
    [{ Scripted.instrumentInterface 0 0 false with alternate := 1 }, ⟨0, 0, 8, 6, 80, []⟩,
      Scripted.instrumentInterface 1 usb488Protocol true]

/-- It has no configuration active, and refuses remote control. -/
def mixedBus : ScriptedBus :=
  let device := ScriptedDevice.ofConfigurations [mixedConfiguration, ⟨1, []⟩]
  let capabilities := Scripted.capabilitiesAnswer 0 0 2 0
  { devices := [(⟨0x0957, 1, none, "mock", 1, []⟩,
      { (device.setControlDefault Request.getCapabilities.code capabilities).setControlDefault
          Request.remoteEnable.code [0x80] with
        active := none }) ] }

/-- The third interface is the one in use, and remote control is not noted. -/
theorem establish_outcome_mixed :
    ∃ link, (establish (ScriptedBus.device 0).recorded ⟨0x0957, 1, none, "mock", 1, []⟩ {}
        (mixedBus, [])).1 = .ok link ∧
      link.interface = 1 ∧ link.endpoints = ⟨0x02, 0x81, some 0x83⟩ ∧
      link.capabilities.remoteLocal ∧ link.remote = false := by
  have hprepared : ∃ t, Prepared (ScriptedBus.device 0) ⟨0x0957, 1, none, "mock", 1, []⟩ {} mixedBus
      ⟨mixedConfiguration, Scripted.instrumentInterface 1 usb488Protocol true, ⟨0x02, 0x81, some 0x83⟩⟩
      false (Scripted.capabilitiesAnswer 0 0 2 0) t :=
    ⟨_, ⟨rfl, configurationOf_eq_ok_iff.1 rfl, chooseInterface_eq_ok_iff.1 rfl,
      findEndpoints_eq_ok_iff.1 rfl⟩, ⟨_, rfl, _, rfl, _, rfl, _, rfl, rfl⟩, rfl, by decide⟩
  obtain ⟨t, hprepared⟩ := hprepared
  obtain ⟨-, h, -⟩ := establish_outcome (ScriptedBus.device 0) ⟨0x0957, 1, none, "mock", 1, []⟩ {}
    mixedBus []
  obtain ⟨capabilities, events, remote, u, hparse, htakes, hmade⟩ := h _ _ _ _ hprepared
  cases hparse
  have hremote : (establish (ScriptedBus.device 0).recorded ⟨0x0957, 1, none, "mock", 1, []⟩ {}
      (mixedBus, [])).1.map (·.remote) = .ok false := rfl
  rw [hmade] at hremote
  exact ⟨_, congrArg Prod.fst hmade, rfl, rfl, rfl, Except.ok.inj hremote⟩

end Link

end Benchtop
