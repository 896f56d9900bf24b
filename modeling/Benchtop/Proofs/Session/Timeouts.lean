import Benchtop.Proofs.Link.Timeouts
import Benchtop.Proofs.Session.Record
import Benchtop.Scripted.Bus

/-!
# The timeout of a session

A timeout that is set is kept twice: the settings keep whole milliseconds, in 64 bits, and an open link all
of it. The calls of an operation are given what the link keeps, or what the settings keep while the session is
closed (`waits`), and those of aborts and clears always the time that the settings have for them. What is told
of the timeout is what the settings keep.

Main statement: so it is in every run. The two are the same as long as all timeouts that have been set are
whole milliseconds below `2 ^ 64`, closing leaves what the settings keep, and opening takes it up
(`waits_run`). With any other timeout they differ while the session is open
(`not_waits_told`).
-/

namespace Benchtop

open Usb

variable {σ : Type} {bus : Bus σ}

/-- How long an operation of the session lets its calls take. -/
def Session.waits (s : Session) : Duration :=
  match s.opened with
  | some opened => opened.link.timing.timeout
  | none => s.settings.timeout

/-- If the call takes time, it is given that of the settings as part of an abort or a clear and `timeout`
otherwise. -/
def Settings.InTime (settings : Settings) (timeout : Duration) (call : Call) : Prop :=
  call.InTime ((max settings.maxTransferSize 1).toNat + Wire.headerSize) timeout settings.abortTimeout

/-- The call is given what the session keeps. -/
def Session.InTime (s : Session) (call : Call) : Prop :=
  s.settings.InTime s.waits call

namespace Session

/-! ## What is kept -/

theorem waits_of_opened {s : Session} {opened : OpenedDevice} (ho : s.opened = some opened) :
    s.waits = opened.link.timing.timeout := by
  rw [waits, ho]

theorem waits_of_closed {s : Session} (ho : s.opened = none) : s.waits = s.settings.timeout := by
  rw [waits, ho]

/-- Opening takes up what the settings keep. -/
theorem waits_openUp (bus : Bus σ) (b : Bench σ) :
    (openUp bus b).2.session.waits = b.session.waits := by
  by_cases hopen : b.session.isOpen
  · rw [openUp_apply, if_pos hopen]
  · rcases @session_openUp _ bus b with h | ⟨info, handle, link, s, t, hmade, h⟩
    · rw [h]
    · obtain ⟨interface, endpoints, detached, hl⟩ := Link.exists_fresh_of_establish hmade
      have hclosed : b.session.waits = b.session.settings.timeout :=
        waits_of_closed (by simpa [isOpen] using hopen)
      rw [h, hclosed]
      change link.timing.timeout = _
      rw [hl]
      rfl

theorem settings_openUp (bus : Bus σ) (b : Bench σ) :
    (openUp bus b).2.session.settings = b.session.settings := by
  rcases @session_openUp _ bus b with h | ⟨info, handle, link, s, t, -, h⟩ <;> rw [h]

theorem waits_close (bus : Bus σ) (b : Bench σ) :
    (close bus b).2.session.waits = b.session.settings.timeout := by
  rw [session_close]
  rfl

theorem settings_close (bus : Bus σ) (b : Bench σ) :
    (close bus b).2.session.settings = b.session.settings := by
  rw [session_close]

theorem waits_setTimeout (s : Session) (timeout : Duration) :
    (s.setTimeout timeout).waits = if s.isOpen then timeout else .ofMillis timeout.millis := by
  cases ho : s.opened <;> simp [waits, setTimeout, isOpen, ho, Settings.timeout]

/-- An operation of the link leaves both as they are. -/
theorem Works.waits_eq {wants : Wire.Request → Prop} {b b' : Bench σ} (h : Works bus wants b b') :
    b'.session.waits = b.session.waits ∧ b'.session.settings = b.session.settings := by
  cases h with
  | closed => exact ⟨rfl, rfl⟩
  | opened ho hm =>
    rw [waits_of_opened ho, waits_of_opened rfl]
    refine ⟨?_, rfl⟩
    dsimp only
    rw [hm.sameOpening]

/-- A timeout that is set is kept, as whole milliseconds while the session is closed. Closing leaves what the
settings keep. -/
theorem waits_perform (bus : Bus σ) (operation : Operation) (b : Bench σ) :
    (operation.perform bus b).2.session.waits =
      match operation with
      | .setTimeout timeout => if b.session.isOpen then timeout else .ofMillis timeout.millis
      | .close | .drop => b.session.settings.timeout
      | _ => b.session.waits := by
  cases operation with
  | openUp =>
    rw [Operation.perform, bind_pure_apply_snd]
    exact waits_openUp bus b
  | close =>
    rw [Operation.perform, bind_pure_apply_snd]
    exact waits_close bus b
  | setTimeout timeout => exact waits_setTimeout b.session timeout
  | drop => exact waits_close bus b
  | _ => exact (works_perform rfl b).waits_eq.1

/-- The settings keep the timeout that was set last, as whole milliseconds. -/
theorem timeout_perform (bus : Bus σ) (operation : Operation) (b : Bench σ) :
    (operation.perform bus b).2.session.settings.timeout =
      match operation with
      | .setTimeout timeout => .ofMillis timeout.millis
      | _ => b.session.settings.timeout := by
  cases operation with
  | openUp =>
    rw [Operation.perform, bind_pure_apply_snd, settings_openUp]
  | close =>
    rw [Operation.perform, bind_pure_apply_snd, settings_close]
  | setTimeout timeout => rfl
  | drop => exact congrArg Settings.timeout (settings_close bus b)
  | _ => exact congrArg Settings.timeout (works_perform rfl b).waits_eq.2

/-! ## What is recorded -/

/-- What has been recorded from `s` to `t` are calls with the property, and events that are no calls. -/
def Records (p : Call → Prop) (s t : σ × List BusEvent) : Prop :=
  ∃ events, t.2 = s.2 ++ events ∧ ∀ number e, .call number e ∈ events → p e.call

section

variable {p : Call → Prop}

instance : Std.Refl (Records (σ := σ) p) where
  refl s := ⟨[], (List.append_nil s.2).symm, nofun⟩

instance : IsTrans (σ × List BusEvent) (Records p) where
  trans _ _ _ := by
    rintro ⟨events, hs, hp⟩ ⟨events', ht, hp'⟩
    refine ⟨events ++ events', by rw [ht, hs, List.append_assoc], fun number e he => ?_⟩
    exact (List.mem_append.1 he).elim (hp number e) (hp' number e)

theorem records_event {s t : σ × List BusEvent} (event : BusEvent) (ht : t.2 = s.2 ++ [event])
    (h : ∀ number e, event ≠ .call number e) : Records p s t :=
  ⟨[event], ht, fun number e he => absurd (List.mem_singleton.1 he).symm (h number e)⟩

theorem records_enumerate (s : σ × List BusEvent) : Records p s (bus.recorded.enumerate s).2 :=
  records_event (.enumerate _) rfl nofun

theorem records_trace {number : Nat} {s t : σ × List BusEvent} {events : List Event}
    (ht : (bus.recorded.device number).Trace s events t) (hp : ∀ e ∈ events, p e.call) :
    Records p s t := by
  refine ⟨events.map (.call number), ht.busLog_eq, fun number e he => ?_⟩
  obtain ⟨e', he', h⟩ := List.mem_map.1 he
  cases h
  exact hp e he'

theorem records_call {number : Nat} {call : Call} (hp : p call) :
    Respects (Records p) ((bus.recorded.device number).call call) :=
  fun s => records_trace ((bus.recorded.device number).trace_perform call s)
    (List.forall_mem_singleton.2 hp)

end

theorem not_mem_of_remoteRequest {r : Wire.Request} (h : Link.RemoteRequest r) :
    r ∉ recoveryRequests := by
  rcases h with rfl | rfl <;> decide

theorem Operation.not_mem_of_makes (operation : Operation) (r : Wire.Request)
    (h : operation.makes r) : r ∉ recoveryRequests := by
  cases operation <;> cases h <;> decide

/-- A link is settled, or handed back, by calls that are in time. -/
theorem records_settle (number : Nat) (link : Link) (usb488 lockout : Bool) :
    Respects (Records link.InTime) (Link.settle (bus.recorded.device number) link usb488 lockout) := by
  intro s
  obtain ⟨events, ht, hcalls⟩ :=
    Link.exists_trace_settle (bus.recorded.device number) link usb488 lockout s
  refine records_trace ht fun e he => ?_
  rcases hcalls e he with ⟨other, hsame, hasks⟩ | h
  · exact hsame.inTime (hasks.inTime fun r => not_mem_of_remoteRequest)
  · exact Link.inTime_of_mem_handBackCalls e.call h

/-- The calls are given what the settings keep while a link is made. -/
theorem records_establish (number : Nat) (info : DeviceInfo) (settings : Settings) :
    Respects (Records (settings.InTime settings.timeout))
      (Link.establish (bus.recorded.device number) info settings) :=
  Link.respects_establish_of_settle (fun _ h => records_call (Call.inTime_of_not_isTraffic h))
    fun interface endpoints detached =>
      records_settle number (Link.fresh info settings interface endpoints detached) _ _

theorem records_openLink (info : DeviceInfo) (settings : Settings) :
    Respects (Records (settings.InTime settings.timeout)) (openLink bus.recorded info settings) := by
  intro s
  have hopened : Records (settings.InTime settings.timeout) s (bus.recorded.openDevice info s).2 :=
    records_event (.openDevice info _) rfl nofun
  rw [openLink_apply]
  generalize bus.recorded.openDevice info s = found at *
  rcases found with ⟨e | number, t⟩
  · exact hopened
  · have hmade : Records (settings.InTime settings.timeout) t
        (Link.establish (bus.recorded.device number) info settings t).2 :=
      records_establish number info settings t
    dsimp only
    generalize Link.establish (bus.recorded.device number) info settings t = made at *
    rcases made with ⟨e | link, u⟩
    · exact trans_of _ hopened (trans_of _ hmade (records_event (.letGo number) rfl nofun))
    · exact trans_of _ hopened hmade

/-- Opening gives its calls what the settings keep. -/
theorem records_openUp (b : Bench (σ × List BusEvent)) :
    Records b.session.InTime b.bus (openUp bus.recorded b).2.bus := by
  rw [openUp_apply]
  by_cases hopen : b.session.isOpen
  · rw [if_pos hopen]
    exact refl_of _ b.bus
  · have hclosed : b.session.waits = b.session.settings.timeout :=
      waits_of_closed (by simpa [isOpen] using hopen)
    have hfound : Records b.session.InTime b.bus (resolve bus.recorded b.session.resource b.bus).2 :=
      respects_resolve (fun s => records_enumerate s) b.session.resource b.bus
    rw [if_neg hopen]
    generalize resolve bus.recorded b.session.resource b.bus = found at *
    rcases found with ⟨e | info, s⟩
    · exact hfound
    · have hmade : Records b.session.InTime s (openLink bus.recorded info b.session.settings s).2 := by
        unfold InTime
        rw [hclosed]
        exact records_openLink info b.session.settings s
      dsimp only
      generalize openLink bus.recorded info b.session.settings s = made at *
      rcases made with ⟨e | opened, t⟩ <;> exact trans_of _ hfound hmade

/-- What an open link keeps is what its session does. -/
theorem Reachable.inTime {b : Bench σ} (hb : Reachable bus b) {opened : OpenedDevice}
    (ho : b.session.opened = some opened) {call : Call} (h : opened.link.InTime call) :
    b.session.InTime call := by
  obtain ⟨info, interface, endpoints, detached, timeout, hl⟩ := hb.exists_fresh ho
  have habort : opened.link.timing.abortTimeout = b.session.settings.abortTimeout := by
    rw [hl]
    rfl
  rwa [Link.InTime, Link.drainRoom, hb.maxTransferSize_eq ho, ← waits_of_opened ho, habort] at h

theorem records_close {b : Bench (σ × List BusEvent)} (hb : Reachable bus.recorded b) :
    Records b.session.InTime b.bus (close bus.recorded b).2.bus := by
  rw [close_apply]
  split
  · exact refl_of _ b.bus
  · next opened ho =>
    obtain ⟨events, ht, hcalls⟩ := Link.exists_trace_handBack
      (bus.recorded.device opened.handle) ⟨opened.link, b.bus⟩
    have hcalls : Records b.session.InTime b.bus _ := records_trace ht fun e he =>
      hb.inTime ho (Link.inTime_of_mem_handBackCalls e.call (hcalls ▸ List.mem_map_of_mem he))
    exact trans_of _ hcalls (records_event (.letGo opened.handle) rfl nofun)

/-- The calls of an operation are given what the session keeps when it is made. -/
theorem records_perform {b : Bench (σ × List BusEvent)} (hb : Reachable bus.recorded b)
    (operation : Operation) :
    Records b.session.InTime b.bus (operation.perform bus.recorded b).2.bus := by
  by_cases h : operation.usesLink
  · have hworks : Works bus.recorded operation.makes b (operation.perform bus.recorded b).2 :=
      works_perform h b
    generalize (operation.perform bus.recorded b).2 = b' at *
    cases hworks with
    | closed => exact refl_of _ b.bus
    | opened ho hm =>
      obtain ⟨events, ht, hasks⟩ := hm.exists_trace
      exact records_trace ht fun e he =>
        hb.inTime ho ((hasks e he).inTime operation.not_mem_of_makes)
  · cases operation with
    | openUp =>
      rw [Operation.perform, bind_pure_apply_snd]
      exact records_openUp b
    | close =>
      rw [Operation.perform, bind_pure_apply_snd]
      exact records_close hb
    | setTimeout => exact refl_of _ b.bus
    | drop => exact records_close hb
    | _ => exact absurd rfl h

/-! ## Runs -/

/-- The settings keep the whole milliseconds of what is kept. -/
theorem timeout_run (bus : Bus σ) (operations : List Operation) {b : Bench σ}
    (hb : b.session.settings.timeout = .ofMillis b.session.waits.millis) :
    (run bus operations b).2.session.settings.timeout =
      .ofMillis (run bus operations b).2.session.waits.millis := by
  induction operations generalizing b with
  | nil => exact hb
  | cons operation operations ih =>
    have hnext : (operation.perform bus b).2.session.settings.timeout =
        .ofMillis (operation.perform bus b).2.session.waits.millis := by
      rw [waits_perform, timeout_perform]
      cases operation with
      | setTimeout timeout => by_cases h : b.session.isOpen <;> simp [h]
      | close | drop => simp [Settings.timeout]
      | _ => exact hb
    exact ih hnext

/-- As long as only whole milliseconds are set, nothing else is kept. -/
theorem whole_run (bus : Bus σ) {operations : List Operation} {b : Bench σ}
    (hset : ∀ timeout, .setTimeout timeout ∈ operations → ∃ ms, timeout = .ofMillis ms)
    (hb : ∃ ms, b.session.waits = .ofMillis ms) :
    ∃ ms, (run bus operations b).2.session.waits = .ofMillis ms := by
  induction operations generalizing b with
  | nil => exact hb
  | cons operation operations ih =>
    have hnext : ∃ ms, (operation.perform bus b).2.session.waits = .ofMillis ms := by
      rw [waits_perform]
      cases operation with
      | setTimeout timeout =>
        obtain ⟨ms, rfl⟩ := hset timeout List.mem_cons_self
        exact ⟨ms, by simp⟩
      | close | drop => exact ⟨_, rfl⟩
      | _ => exact hb
    exact ih (fun timeout h => hset timeout (List.mem_cons_of_mem _ h)) hnext

/-- Settings keep everything but the timeout. -/
theorem settings_run (bus : Bus σ) (resource : Resource) (settings : Settings)
    (start : σ × List BusEvent) (operations : List Operation) :
    ∃ timeoutMs, (run bus.recorded operations ⟨{ resource, settings }, start⟩).2.session.settings =
      { settings with timeoutMs } :=
  ((lasts_recorded bus settings []).during_run operations
    ⟨⟨settings.timeoutMs, rfl⟩, List.nil_prefix⟩).settings_eq

/-- After any operations, the calls of the next one are given what is kept of the timeout, and those of aborts
and clears what the settings have for them. What is told of the timeout are the whole milliseconds, in 64 bits,
of what is kept; they are all of it if no other timeout has been set. What is kept lasts until a timeout is set
or the session is closed: it is then the timeout, or what is told. -/
theorem waits_run (bus : Bus σ) (resource : Resource) (settings : Settings)
    (start : σ × List BusEvent) (operations : List Operation) (operation : Operation) :
    let b := (run bus.recorded operations ⟨{ resource, settings }, start⟩).2
    let b' := (operation.perform bus.recorded b).2
    (∃ events, b'.bus.2 = b.bus.2 ++ events ∧ ∀ number e, .call number e ∈ events →
      e.call.InTime ((max settings.maxTransferSize 1).toNat + Wire.headerSize) b.session.waits
        settings.abortTimeout) ∧
    b.session.settings.timeout = .ofMillis b.session.waits.millis ∧
    ((∀ timeout, .setTimeout timeout ∈ operations → ∃ ms, timeout = .ofMillis ms) →
      b.session.waits = b.session.settings.timeout) ∧
    b'.session.waits =
      match operation with
      | .setTimeout timeout => if b.session.isOpen then timeout else .ofMillis timeout.millis
      | .close | .drop => b.session.settings.timeout
      | _ => b.session.waits := by
  intro b b'
  have hb : Reachable bus.recorded b := ⟨resource, settings, start, operations, rfl⟩
  have htold : b.session.settings.timeout = .ofMillis b.session.waits.millis :=
    timeout_run bus.recorded operations (by simp [waits, Settings.timeout])
  refine ⟨?_, htold, fun hset => ?_, waits_perform bus.recorded operation b⟩
  · obtain ⟨timeoutMs, hs⟩ := settings_run bus resource settings start operations
    obtain ⟨events, hlog, hcalls⟩ := records_perform hb operation
    refine ⟨events, hlog, fun number e he => ?_⟩
    have hcall := hcalls number e he
    rw [InTime, hs] at hcall
    exact hcall
  · have hwhole : ∃ ms, b.session.waits = .ofMillis ms :=
      whole_run bus.recorded hset ⟨settings.timeoutMs, rfl⟩
    obtain ⟨ms, hms⟩ := hwhole
    rw [htold, hms, Duration.millis_ofMillis]

/-! ## Timeouts that are not kept whole -/

/-- A closed session with an instrument. -/
def unhurried : Bench (ScriptedBus × List BusEvent) :=
  let info : DeviceInfo := ⟨0x0957, 1, none, "mock", 1, []⟩
  ⟨{ resource := .attached info, settings := {} }, ({ devices := [(info, .plain)] }, [])⟩

/-- The times that the calls of an operation were given. -/
def given (operation : Operation) (b : Bench (ScriptedBus × List BusEvent)) : List Duration :=
  ((operation.perform ScriptedBus.behaviour.recorded b).2.bus.2.drop b.bus.2.length).filterMap
    fun event => match event with
      | .call _ e => e.call.timeout?
      | _ => none

/-- What is told of the timeout after the operations, and the times that a transfer is given then. -/
def toldAndGiven (operations : List Operation) : Duration × List Duration :=
  let b := (run ScriptedBus.behaviour.recorded operations unhurried).2
  (b.session.settings.timeout, given (.writeRaw [7]) b)

/-- Half a millisecond is set, or `2 ^ 64` milliseconds are. A transfer is given just that, while no time at
all is told; and once the session has been closed and opened again, no time is given either. -/
theorem not_waits_told :
    toldAndGiven [.openUp, .setTimeout ⟨500000⟩] = (⟨0⟩, [⟨500000⟩]) ∧
      toldAndGiven [.openUp, .setTimeout ⟨18446744073709551616000000⟩] =
        (⟨0⟩, [⟨18446744073709551616000000⟩]) ∧
      toldAndGiven [.openUp, .setTimeout ⟨18446744073709551616000000⟩, .close, .openUp] =
        (⟨0⟩, [⟨0⟩]) := by
  decide +kernel

end Session

end Benchtop
