import Benchtop.Proofs.Link.HandingBack
import Benchtop.Proofs.Link.Support
import Benchtop.Proofs.Session.Brackets
import Benchtop.Proofs.Session.Record
import Benchtop.Scripted.Bus

/-!
# Only what is advertised

The record of a session says by itself what may be asked of a device: it was opened as a device of
some vendor, an interface of it was chosen, and asked for its capabilities first, it has told them. A
link is `Founded` on a record if that is what it holds of its device. A record `Heeds` what the devices
have told if every transfer and every request in it is allowed by a link that is founded on what was
recorded before, the first query aside.

Main statement: the record of every run heeds what the devices have told, wherever their answers fail;
the link of an open session is founded on it, and all that the device was asked since it was opened is
allowed by that link. Operations ask for what they are made for only. What the instrument does not
support is refused, and nothing is changed (`advertised_run`).
-/

namespace Benchtop

open Usb Wire

variable {σ : Type} {bus : Bus σ} {termChar : Option UInt8} {info : DeviceInfo} {number : Nat}
  {wants : Request → Prop} {link : Link} {log : List BusEvent}

/-! ## What a record says of a device -/

/-- The interface is the one to use of those that the device describes. -/
def Chosen (bus : Bus σ) (number : Nat) (info : DeviceInfo) (interface : Interface) : Prop :=
  ∃ s, ∃ configuration ∈ (bus.device number).configurations s,
    Link.chooseInterface info configuration = .ok interface

/-- The query for the capabilities of an interface. -/
def Usb.Call.isQuery (call : Call) (interface : UInt8) : Prop :=
  ∃ timeout, call = .controlIn (.toInterface Request.getCapabilities.code 0 interface) 24 timeout

/-- The device was asked for its capabilities before anything else, and has told these. -/
def Told (events : List Event) (interface : Interface) (capabilities : Capabilities) : Prop :=
  ∃ before timeout bytes after,
    events = before ++
      ⟨.controlIn (.toInterface Request.getCapabilities.code 0 interface.number) 24 timeout,
        .ok bytes⟩ :: after ∧
    (∀ event ∈ before, ¬ event.call.isTraffic) ∧
    Capabilities.parse bytes (interface.protocol == usb488Protocol) = .ok capabilities

/-- The link holds of the device what the record says: it was opened as a device of this vendor, the
interface is the one to use, and the capabilities are those that it has told. -/
structure Founded (bus : Bus σ) (termChar : Option UInt8) (log : List BusEvent) (number : Nat)
    (link : Link) : Prop where
  exists_opening : ∃ interface events, latestOpening log = some ⟨link.info, number, events⟩ ∧
    Chosen bus number link.info interface ∧ link.interface = interface.number ∧
    Link.findEndpoints interface = .ok link.endpoints ∧
    Told events interface link.capabilities ∧
    (link.capabilities.isExtended → interface.protocol = usb488Protocol)
  profile_eq : link.profile = .ofVendor link.info.vendor
  termChar_eq : link.termChar = termChar

theorem Founded.call (h : Founded bus termChar log number link) (number' : Nat) (event : Event) :
    Founded bus termChar (log ++ [.call number' event]) number link := by
  obtain ⟨interface, events, hopening, hchosen, hinterface, hendpoints, htold, husb488⟩ :=
    h.exists_opening
  obtain ⟨before, timeout, bytes, after, rfl, hbefore, hparse⟩ := htold
  refine ⟨⟨interface, _, ?_, hchosen, hinterface, hendpoints,
    ⟨before, timeout, bytes, after ++ [event], rfl, hbefore, hparse⟩, husb488⟩,
    h.profile_eq, h.termChar_eq⟩
  rw [latestOpening_concat, hopening]
  simp [BusEvent.openingAfter]

/-- Everything asked of a device is allowed by what was recorded before, or it is the query for its
capabilities. -/
def Heeds (bus : Bus σ) (termChar : Option UInt8) (log : List BusEvent) : Prop :=
  ∀ before number event after, log = before ++ .call number event :: after → event.call.isTraffic →
    (∃ interface, event.call.isQuery interface) ∨
      ∃ link, Founded bus termChar before number link ∧ link.Allows event.call

namespace Heeds

theorem nil : Heeds bus termChar [] := by
  intro before number event after h
  simp at h

theorem concat (h : Heeds bus termChar log) {event : BusEvent}
    (he : ∀ number call, event = .call number call → call.call.isTraffic →
      (∃ interface, call.call.isQuery interface) ∨
        ∃ link, Founded bus termChar log number link ∧ link.Allows call.call) :
    Heeds bus termChar (log ++ [event]) := by
  intro before number call after hlog
  rcases List.eq_nil_or_concat after with rfl | ⟨after, last, rfl⟩
  · obtain ⟨rfl, hevent⟩ := List.append_inj' hlog rfl
    exact he number call (List.singleton_inj.1 hevent)
  · rw [List.concat_eq_append, ← List.cons_append, ← List.append_assoc] at hlog
    exact h before number call after (List.append_inj' hlog rfl).1

/-- What is not asked of a device is allowed. -/
theorem other (h : Heeds bus termChar log) {event : BusEvent}
    (he : ∀ number call, event = .call number call → ¬ call.call.isTraffic) :
    Heeds bus termChar (log ++ [event]) :=
  h.concat fun number call hevent ht => absurd ht (he number call hevent)

theorem others (h : Heeds bus termChar log) {events : List Event}
    (he : ∀ event ∈ events, ¬ event.call.isTraffic) :
    Heeds bus termChar (log ++ events.map (.call number)) := by
  induction events generalizing log with
  | nil => simpa using h
  | cons event events ih =>
    have hevent : Heeds bus termChar (log ++ [.call number event]) := by
      refine h.other ?_
      rintro _ _ ⟨rfl, rfl⟩
      exact he event List.mem_cons_self
    rw [List.map_cons, List.append_cons]
    exact ih hevent fun event hm => he event (List.mem_cons_of_mem _ hm)

end Heeds

/-- The record heeds what the devices have told, the link to one of them is founded on it, and allows
all that was asked of the device since it was opened, to operations that are made for these requests. -/
structure Attended (bus : Bus σ) (termChar : Option UInt8) (number : Nat) (wants : Request → Prop)
    (link : Link) (log : List BusEvent) : Prop where
  heeds : Heeds bus termChar log
  founded : Founded bus termChar log number link
  statusMode_eq : link.statusMode =
    Link.chooseStatusMode link.capabilities link.endpoints.interruptIn
  allows : ∀ opening, latestOpening log = some opening →
    ∀ event ∈ opening.events, event.call.isTraffic → link.AllowsFor wants event.call

/-- The record goes on with what the link allows to an operation that is made for these requests. -/
def GoesOn (number : Nat) (wants : Request → Prop) (link : Link) (log log' : List BusEvent) : Prop :=
  ∃ events : List Event, (∀ event ∈ events, link.AllowsFor wants event.call) ∧
    log' = log ++ events.map (.call number)

namespace Attended

theorem mono (h : Attended bus termChar number wants link log) {wants' : Request → Prop}
    (hw : ∀ r, wants r → wants' r) : Attended bus termChar number wants' link log :=
  ⟨h.heeds, h.founded, h.statusMode_eq, fun opening ho event hm ht =>
    (h.allows opening ho event hm ht).mono fun r _ => hw r⟩

/-- What the link asks is heedful. -/
theorem ask (h : Attended bus termChar number wants link log) {events : List Event}
    (he : ∀ event ∈ events, link.AsksFor wants event.call) :
    Attended bus termChar number wants link (log ++ events.map (.call number)) := by
  induction events generalizing log with
  | nil => simpa using h
  | cons event events ih =>
    have hallows : link.AllowsFor wants event.call :=
      (he event List.mem_cons_self).allows h.statusMode_eq
    have hevent : Attended bus termChar number wants link (log ++ [.call number event]) := by
      refine ⟨h.heeds.concat ?_, h.founded.call number event, h.statusMode_eq, ?_⟩
      · rintro _ _ ⟨rfl, rfl⟩ -
        exact .inr ⟨link, h.founded, hallows.mono fun _ _ _ => trivial⟩
      · intro opening hopening asked hm ht
        obtain ⟨interface, events, hlatest, -⟩ := h.founded.exists_opening
        rw [latestOpening_concat, hlatest] at hopening
        cases hopening
        rcases List.mem_append.1 hm with hm | hm
        · exact h.allows _ hlatest asked hm ht
        · rwa [List.mem_singleton.1 hm]
    rw [List.map_cons, List.append_cons]
    exact ih hevent fun event hm => he event (List.mem_cons_of_mem _ hm)

end Attended

namespace Link

/-- Moves are heedful, and the link stays founded. -/
theorem MovesFor.attended {c c' : Connection (σ × List BusEvent)}
    (hm : MovesFor (bus.recorded.device number) wants c c')
    (h : Attended bus termChar number wants c.link c.device.2) :
    Attended bus termChar number wants c'.link c'.device.2 := by
  obtain ⟨events, hasks, hlog⟩ := hm.log_eq
  have hasked := h.ask hasks
  rw [hlog, hm.sameOpening]
  exact ⟨hasked.heeds, ⟨hasked.founded.exists_opening, hasked.founded.profile_eq,
    hasked.founded.termChar_eq⟩, hasked.statusMode_eq, hasked.allows⟩

theorem MovesFor.goesOn {c c' : Connection (σ × List BusEvent)}
    (hm : MovesFor (bus.recorded.device number) wants c c')
    (hmode : c.link.statusMode =
      chooseStatusMode c.link.capabilities c.link.endpoints.interruptIn) :
    GoesOn number wants c.link c.device.2 c'.device.2 := by
  obtain ⟨events, hasks, hlog⟩ := hm.log_eq
  exact ⟨events, fun event he => (hasks event he).allows hmode, hlog⟩

theorem heeds_handBack {c : Connection (σ × List BusEvent)}
    (h : Attended bus termChar number (fun _ => True) c.link c.device.2) :
    Heeds bus termChar (handBack (bus.recorded.device number) c).2.device.2 := by
  obtain ⟨events, released, attached, hasks, hlog⟩ := log_handBack bus number c
  have hreleased : Heeds bus termChar (c.device.2 ++ events.map (.call number) ++
      [.call number ⟨.release c.link.interface, released⟩]) := by
    refine (h.ask hasks).heeds.other ?_
    rintro _ _ ⟨rfl, rfl⟩
    exact Bool.false_ne_true
  rw [hlog, List.append_cons, returning]
  split
  · refine hreleased.other ?_
    rintro _ _ ⟨rfl, rfl⟩
    exact Bool.false_ne_true
  · rwa [List.append_nil]

/-- The calls of handing back are recorded. -/
theorem exists_log_handBack (bus : Bus σ) (number : Nat) (c : Connection (σ × List BusEvent)) :
    ∃ events : List Event, events.map (·.call) = c.link.handBackCalls ∧
      (handBack (bus.recorded.device number) c).2.device.2 =
        c.device.2 ++ events.map (.call number) := by
  obtain ⟨events, ht, hcalls⟩ := exists_trace_handBack (bus.recorded.device number) c
  exact ⟨events, hcalls, ht.busLog_eq⟩

/-- A link that has not been used asks for nothing when it is handed back. -/
theorem heeds_handBack_of_unused {c : Connection (σ × List BusEvent)}
    (h : Heeds bus termChar c.device.2) (hremote : c.link.remote = false)
    (hlocked : c.link.locked = false) :
    Heeds bus termChar (handBack (bus.recorded.device number) c).2.device.2 := by
  obtain ⟨events, hcalls, hlog⟩ := exists_log_handBack bus number c
  rw [hlog]
  refine h.others fun event he => ?_
  have hm : event.call ∈ c.link.releaseCalls := by
    have hm : event.call ∈ c.link.handBackCalls := hcalls ▸ List.mem_map_of_mem he
    simpa [handBackCalls, remoteCalls, lockedCalls, hremote, hlocked] using hm
  rcases List.mem_cons.1 hm with h | h
  · rw [h]
    exact Bool.false_ne_true
  · split at h
    · rw [List.mem_singleton.1 h]
      exact Bool.false_ne_true
    · cases h

/-! ## Opening -/

/-- A device has just been opened, and nothing was asked of it. -/
structure Begun (bus : Bus σ) (termChar : Option UInt8) (info : DeviceInfo) (number : Nat)
    (log : List BusEvent) : Prop where
  heeds : Heeds bus termChar log
  exists_events : ∃ events, latestOpening log = some ⟨info, number, events⟩ ∧
    ∀ event ∈ events, ¬ event.call.isTraffic

theorem Begun.call (h : Begun bus termChar info number log) {event : Event}
    (he : ¬ event.call.isTraffic) :
    Begun bus termChar info number (log ++ [.call number event]) := by
  obtain ⟨events, hopening, hevents⟩ := h.exists_events
  refine ⟨h.heeds.other ?_, events ++ [event], ?_, ?_⟩
  · rintro _ _ ⟨rfl, rfl⟩
    exact he
  · rw [latestOpening_concat, hopening]
    rfl
  · exact List.forall_mem_append.2 ⟨hevents, List.forall_mem_singleton.2 he⟩

theorem begun_call {call : Call} (hcall : ¬ call.isTraffic) :
    Respects (Preserves fun s => Begun bus termChar info number s.2)
      ((bus.recorded.device number).call call) :=
  fun _ h => h.call hcall

/-- The query for the capabilities comes first. -/
theorem Begun.heeds_query (h : Begun bus termChar info number log) (link : Link)
    (answer : Except BusError link.capabilitiesCall.Answer) :
    Heeds bus termChar (log ++ [.call number ⟨link.capabilitiesCall, answer⟩]) := by
  refine h.heeds.concat ?_
  rintro _ _ ⟨rfl, rfl⟩ -
  exact .inl ⟨link.interface, link.timing.timeout, rfl⟩

/-- A device that has told its capabilities is attended by the link that has learned of them. -/
theorem Begun.attended {settings : Settings} (h : Begun bus settings.termChar info number log)
    {interface : Interface} {endpoints : Endpoints} (hchosen : Chosen bus number info interface)
    (hendpoints : findEndpoints interface = .ok endpoints) (detached : Bool) {bytes : List UInt8}
    {capabilities : Capabilities}
    (hparse : Capabilities.parse bytes (interface.protocol == usb488Protocol) = .ok capabilities) :
    Attended bus settings.termChar number wants
      ((fresh info settings interface endpoints detached).learned capabilities)
      (log ++ [.call number
        ⟨(fresh info settings interface endpoints detached).capabilitiesCall, .ok bytes⟩]) := by
  have hheeds := h.heeds_query (fresh info settings interface endpoints detached) (.ok bytes)
  obtain ⟨events, hopening, hevents⟩ := h.exists_events
  have hlatest : latestOpening (log ++ [.call number
      ⟨(fresh info settings interface endpoints detached).capabilitiesCall, .ok bytes⟩]) =
        some ⟨info, number, events ++
          [⟨(fresh info settings interface endpoints detached).capabilitiesCall, .ok bytes⟩]⟩ := by
    rw [latestOpening_concat, hopening]
    rfl
  have htold : Told (events ++
      [⟨(fresh info settings interface endpoints detached).capabilitiesCall, .ok bytes⟩]) interface
        capabilities :=
    ⟨events, settings.timeout, bytes, [], rfl, hevents, hparse⟩
  refine ⟨hheeds, ⟨⟨interface, _, hlatest, hchosen, rfl, hendpoints, htold, fun hextended => ?_⟩,
    rfl, rfl⟩, rfl, fun opening ho event hm ht => ?_⟩
  · exact beq_iff_eq.1 ((Capabilities.isExtended_of_parse hparse).symm.trans hextended)
  · rw [hlatest] at ho
    cases ho
    rcases List.mem_append.1 hm with hm | hm
    · exact absurd ht (hevents event hm)
    · rw [List.mem_singleton.1 hm]
      exact allowsFor_of_takes (r := .getCapabilities) trivial nofun nofun rfl _ _

theorem ensures_chooseConfiguration_begun (bus : Bus σ) (termChar : Option UInt8)
    (info : DeviceInfo) (number : Nat) (force : Bool) :
    Ensures (fun s => Begun bus termChar info number s.2)
      (chooseConfiguration (bus.recorded.device number) force)
      (fun configuration s => (∃ t, configuration ∈ (bus.device number).configurations t) ∧
        Begun bus termChar info number s.2)
      (fun _ s => Begun bus termChar info number s.2) := by
  intro s h
  have hdescribed := ensures_chooseConfiguration (bus.recorded.device number) force s s rfl
  have hbegun : Begun bus termChar info number _ :=
    respects_chooseConfiguration (r := Preserves fun s => Begun bus termChar info number s.2)
      (fun _ => begun_call (by simp [Call.isTraffic])) force s h
  generalize chooseConfiguration (bus.recorded.device number) force s = chosen at *
  rcases chosen with ⟨e | configuration, t⟩
  · exact hbegun
  · exact ⟨⟨s.1, hdescribed⟩, hbegun⟩

/-- A claimed interface of a device is settled as far as the device tells what it can do. -/
theorem ensures_settle_attended (bus : Bus σ) {interface : Interface} {endpoints : Endpoints}
    (hchosen : Chosen bus number info interface)
    (hendpoints : findEndpoints interface = .ok endpoints) (settings : Settings) (detached : Bool) :
    Ensures (fun s => Begun bus settings.termChar info number s.2)
      (settle (bus.recorded.device number) (fresh info settings interface endpoints detached)
        (interface.protocol == usb488Protocol) settings.localLockout)
      (fun link s => Attended bus settings.termChar number RemoteRequest link s.2)
      (fun _ s => Heeds bus settings.termChar s.2) := by
  intro s h
  have hlog := congrArg (fun p => p.2.2) (recorded_perform bus number
    (fresh info settings interface endpoints detached).capabilitiesCall s)
  dsimp only at hlog
  rcases settle_cases (bus.recorded.device number)
    (fresh info settings interface endpoints detached) (interface.protocol == usb488Protocol)
    settings.localLockout s with ⟨e, hs⟩ | ⟨c, hs, hl⟩
  · rw [hs]
    exact heeds_handBack_of_unused (h.heeds_query _ _) rfl rfl
  · obtain ⟨bytes, capabilities, hanswer, hparse, hm⟩ := hl
    rw [recorded_perform] at hanswer
    dsimp only at hanswer
    rw [hanswer] at hlog
    have hlearned : Attended bus settings.termChar number RemoteRequest _ _ :=
      h.attended hchosen hendpoints detached hparse
    rw [← hlog] at hlearned
    rw [hs]
    exact hm.attended hlearned

theorem ensures_establish_attended (bus : Bus σ) (number : Nat) (info : DeviceInfo)
    (settings : Settings) :
    Ensures (fun s => Begun bus settings.termChar info number s.2)
      (establish (bus.recorded.device number) info settings)
      (fun link s => Attended bus settings.termChar number RemoteRequest link s.2)
      (fun _ s => Heeds bus settings.termChar s.2) := by
  -- Until the interface is claimed there is nothing but a device that was opened.
  have hbegun {α : Type} {q : α → σ × List BusEvent → Prop}
      {x : Action (σ × List BusEvent) α}
      (hx : Ensures (fun s => Begun bus settings.termChar info number s.2) x q
        fun _ s => Begun bus settings.termChar info number s.2) :
      Ensures (fun s => Begun bus settings.termChar info number s.2) x q
        fun _ s => Heeds bus settings.termChar s.2 :=
    hx.mono (fun _ _ => id) fun _ _ h => h.heeds
  unfold establish
  refine Ensures.bind (hbegun (ensures_chooseConfiguration_begun bus _ info number _))
    fun configuration => ensures_of_and fun ⟨t, hconfiguration⟩ => ?_
  refine Ensures.bind (hbegun (ensures_ofExcept_eq _)) fun interface =>
    ensures_of_and fun hinterface => ?_
  refine Ensures.bind (hbegun (ensures_ofExcept_eq _)) fun endpoints =>
    ensures_of_and fun hendpoints => ?_
  refine Ensures.bind (hbegun ((begun_call (by nofun)).ensures fun _ _ => id)) fun detached => ?_
  refine Ensures.bind (hbegun ((respects_claim (begun_call (by nofun)) (begun_call (by nofun))
    detached).ensures fun _ _ => id)) fun _ => ?_
  exact ensures_settle_attended bus ⟨t, configuration, hconfiguration, hinterface⟩ hendpoints settings
    detached

end Link

namespace Session

theorem ensures_openLink_attended (bus : Bus σ) (info : DeviceInfo) (settings : Settings) :
    Ensures (fun s => Heeds bus settings.termChar s.2) (openLink bus.recorded info settings)
      (fun opened s =>
        Attended bus settings.termChar opened.handle Link.RemoteRequest opened.link s.2)
      (fun _ s => Heeds bus settings.termChar s.2) := by
  refine ensures_openLink_of (fun s h => ?_) fun number =>
    (Link.ensures_establish_attended bus number info settings).mono (fun _ _ => id)
      fun _ _ h => h.other (by nofun)
  have hopening : Heeds bus settings.termChar (bus.recorded.openDevice info s).2.2 :=
    h.other (by nofun)
  rcases hfound : bus.recorded.openDevice info s with ⟨e | number, t⟩ <;> rw [hfound] at hopening
  · exact hopening
  · refine ⟨hopening, [], ?_, List.forall_mem_nil _⟩
    rw [log_of_openDevice hfound, latestOpening_concat]
    rfl

theorem heeds_resolve (bus : Bus σ) (resource : Resource) :
    Respects (Preserves fun s => Heeds bus termChar s.2) (resolve bus.recorded resource) :=
  respects_resolve (fun _ h => Heeds.other h (by nofun)) resource

theorem lasts_attended (bus : Bus σ) (settings : Settings) :
    Lasts bus.recorded settings (fun s => Heeds bus settings.termChar s.2) fun opened s =>
      Attended bus settings.termChar opened.handle (fun _ => True) opened.link s.2 where
  resolve := heeds_resolve bus
  openLink info timeoutMs :=
    (ensures_openLink_attended bus info { settings with timeoutMs }).mono
      (fun _ _ h => h.mono fun _ _ => trivial) fun _ _ => id
  setTimeout h _ :=
    ⟨h.heeds, ⟨h.founded.exists_opening, h.founded.profile_eq, h.founded.termChar_eq⟩,
      h.statusMode_eq, h.allows⟩
  operate h hm := hm.attended h
  close {opened s} h :=
    (@Link.heeds_handBack σ bus settings.termChar opened.handle ⟨opened.link, s⟩ h).other (by nofun)

/-! ## Refusals -/

section

variable {bus : Bus σ} {b : Bench σ} {opened : OpenedDevice}

/-- The answer to what needs remote and local control, where there is no such thing. -/
def remoteRefusal? (link : Link) : Option (Except Failure Answer) :=
  if link.capabilities.remoteLocal then none else some (.error (.notSupported .remoteLocal))

/-- The answer to what needs a front panel lock, where there is none. -/
def lockRefusal? (link : Link) (name : String) : Option (Except Failure Answer) :=
  if link.profile.isLockable then none
  else some (.error (.notSupported (.frontPanel name link.info.vendor link.info.product)))

/-- The answer to an operation that the instrument does not support. -/
def Operation.refusal? (link : Link) : Operation → Option (Except Failure Answer)
  | .remoteControl _ | .goToLocal | .localLockout => remoteRefusal? link
  | .lock => lockRefusal? link "lock"
  | .unlock => lockRefusal? link "unlock"
  | .readVendorId => lockRefusal? link "read_vendor_id"
  | .pulse => if link.capabilities.pulse then none else some (.ok (.flag false))
  | _ => none

/-- What leaves the connection as it is leaves the bench as it is. -/
theorem onLink_of_unchanged (ho : b.session.opened = some opened) {α : Type}
    {action : Device σ → Exchange σ α} {answer : Except Failure α}
    (h : action (bus.device opened.handle) ⟨opened.link, b.bus⟩ = (answer, ⟨opened.link, b.bus⟩)) :
    onLink bus action b = (answer, b) := by
  unfold onLink
  rw [ho]
  dsimp only
  rw [h]
  dsimp only
  rw [← ho]

theorem onLink_of_remoteRefusal {answer : Except Failure Answer}
    (ho : b.session.opened = some opened) (h : remoteRefusal? opened.link = some answer)
    {α : Type} (action : Device σ → Exchange σ α) (f : α → Action (Bench σ) Answer) :
    (onLink bus (fun dev => do Link.requireRemoteLocal; action dev) >>= f) b = (answer, b) := by
  unfold remoteRefusal? at h
  split at h
  · cases h
  · next hno =>
    cases h
    refine bind_of_error (onLink_of_unchanged ho (bind_of_error ?_))
    rw [Link.requireRemoteLocal_apply, if_neg hno]

theorem onLink_of_lockRefusal {name : String} {answer : Except Failure Answer}
    (ho : b.session.opened = some opened) (h : lockRefusal? opened.link name = some answer)
    {α : Type} (action : Device σ → Exchange σ α) (f : α → Action (Bench σ) Answer) :
    (onLink bus (fun dev => do Link.requireLockable name; action dev) >>= f) b = (answer, b) := by
  unfold lockRefusal? at h
  split at h
  · cases h
  · next hlockable =>
    cases h
    refine bind_of_error (onLink_of_unchanged ho ?_)
    rw [Link.requireLockable_bind_apply, if_neg hlockable]

/-- What the instrument does not support is refused, and nothing is changed. -/
theorem perform_of_refusal (ho : b.session.opened = some opened) {operation : Operation}
    {answer : Except Failure Answer} (h : operation.refusal? opened.link = some answer) :
    operation.perform bus b = (answer, b) := by
  cases operation with
  | remoteControl enable => exact onLink_of_remoteRefusal ho h _ _
  | goToLocal => exact onLink_of_remoteRefusal ho h _ _
  | localLockout => exact onLink_of_remoteRefusal ho h _ _
  | lock => exact onLink_of_lockRefusal ho h _ _
  | unlock => exact onLink_of_lockRefusal ho h _ _
  | readVendorId => exact onLink_of_lockRefusal ho h _ _
  | pulse =>
    simp only [Operation.refusal?] at h
    split at h
    · cases h
    · next hno =>
      cases h
      have hpulse : onLink bus Link.pulse b = (.ok false, b) := by
        refine onLink_of_unchanged ho ?_
        rw [Link.pulse, get_bind_apply, if_neg hno]
        rfl
      exact bind_of_ok hpulse
  | _ => cases h

end

/-! ## Runs -/

/-- Closing hands the device back and lets go of it. -/
theorem exists_log_close (bus : Bus σ) {b : Bench (σ × List BusEvent)} {opened : OpenedDevice}
    (ho : b.session.opened = some opened) :
    ∃ events : List Event, events.map (·.call) = opened.link.handBackCalls ∧
      (Operation.close.perform bus.recorded b).2.bus.2 =
        b.bus.2 ++ events.map (.call opened.handle) ++ [.letGo opened.handle] := by
  obtain ⟨events, hcalls, hlog⟩ := Link.exists_log_handBack bus opened.handle ⟨opened.link, b.bus⟩
  refine ⟨events, hcalls, ?_⟩
  rw [Operation.perform, bind_pure_apply_snd, close_apply, ho]
  dsimp only
  rw [← hlog]
  rfl

/-- Of a device that has just been opened, no more is asked than remote control. -/
theorem attended_openUp {settings : Settings} {b : Bench (σ × List BusEvent)}
    (hb : During settings (fun s => Heeds bus settings.termChar s.2)
      (fun opened s =>
        Attended bus settings.termChar opened.handle (fun _ => True) opened.link s.2) b)
    (hnone : b.session.opened = none) {opened : OpenedDevice}
    (ho : (openUp bus.recorded b).2.session.opened = some opened) :
    Attended bus settings.termChar opened.handle Link.RemoteRequest opened.link
      (openUp bus.recorded b).2.bus.2 := by
  obtain ⟨info, s, t, hfound, hmade, hopened⟩ := exists_of_opened_openUp hnone ho
  obtain ⟨timeoutMs, hs⟩ := hb.settings_eq
  have hheeds := heeds_resolve bus b.session.resource b.bus (hb.of_closed hnone)
  rw [hfound] at hheeds
  rw [hs] at hmade
  have hattended := ensures_openLink_attended bus info { settings with timeoutMs } s hheeds
  rw [hmade] at hattended
  rw [hopened]
  exact hattended

/-- Where a code is that of two requests, an operation makes the one that it wants. -/
theorem Operation.wants_of_makes {operation : Operation} {r : Request} (hs : Link.SharesCode r)
    (h : operation.makes r) : operation.wants r := by
  cases operation with
  | readStatusByte =>
    obtain rfl : r = .readStatusByte := h
    exact absurd hs (Link.not_sharesCode nofun nofun)
  | _ => exact h

/-- An operation of an open session asks for what it is made for. -/
theorem goesOn_perform {b : Bench (σ × List BusEvent)} {opened : OpenedDevice}
    (ho : b.session.opened = some opened)
    (hmode : opened.link.statusMode =
      Link.chooseStatusMode opened.link.capabilities opened.link.endpoints.interruptIn)
    {operation : Operation} (h : operation.usesLink) :
    GoesOn opened.handle operation.wants opened.link b.bus.2
      (operation.perform bus.recorded b).2.bus.2 := by
  obtain ⟨c, hm, hperform⟩ := exists_movesFor_of_perform bus.recorded ho h
  obtain ⟨events, hallows, hlog⟩ := hm.goesOn hmode
  rw [hperform]
  exact ⟨events, fun event he => (hallows event he).mono fun _ => Operation.wants_of_makes, hlog⟩

/-- On a bus of any behaviour, at any point of any run: everything asked of a device was allowed by
what that had told before (`Heeds`). While the session is open, its link holds what the device has told,
and has allowed all that was asked since the device was opened, also after any number of envelopes of a
message that is being read, even one without end (`Attended`). Each operation of the link asks for what
it is made for, opening asks for remote control at most, and closing makes the calls that the link has
need of. An operation that the instrument does not support is refused, and nothing is asked and nothing
changed. -/
theorem advertised_run (bus : Bus σ) (resource : Resource) (settings : Settings) (start : σ)
    (operations : List Operation) :
    let ran (operations : List Operation) :=
      (run bus.recorded operations ⟨{ resource, settings }, (start, [])⟩).2
    Heeds bus settings.termChar (ran operations).bus.2 ∧
      (∀ opened, (ran operations).session.opened = some opened →
        (∀ n,
          let c := (fun c => (Link.readEnvelope (bus.recorded.device opened.handle) c).2)^[n]
            ⟨opened.link, (ran operations).bus⟩
          Attended bus settings.termChar opened.handle (fun _ => True) c.link c.device.2 ∧
            GoesOn opened.handle (fun _ => False) opened.link (ran operations).bus.2 c.device.2) ∧
        (∀ operation : Operation, operation.usesLink →
          GoesOn opened.handle operation.wants opened.link (ran operations).bus.2
            (ran (operations ++ [operation])).bus.2) ∧
        (∃ events : List Event, events.map (·.call) = opened.link.handBackCalls ∧
          (ran (operations ++ [.close])).bus.2 =
            (ran operations).bus.2 ++ events.map (.call opened.handle) ++ [.letGo opened.handle]) ∧
        ∀ operation answer, Operation.refusal? opened.link operation = some answer →
          operation.perform bus.recorded (ran operations) = (answer, ran operations)) ∧
      ((ran operations).session.opened = none → ∀ opened,
        (ran (operations ++ [.openUp])).session.opened = some opened →
          Attended bus settings.termChar opened.handle Link.RemoteRequest opened.link
            (ran (operations ++ [.openUp])).bus.2) := by
  intro ran
  have hran : During settings (fun s => Heeds bus settings.termChar s.2)
      (fun opened s =>
        Attended bus settings.termChar opened.handle (fun _ => True) opened.link s.2)
      (ran operations) :=
    (lasts_attended bus settings).during_run operations ⟨⟨settings.timeoutMs, rfl⟩, Heeds.nil⟩
  have hone (operation : Operation) : ran (operations ++ [operation]) =
      (operation.perform bus.recorded (ran operations)).2 := by
    dsimp only [ran]
    rw [run_append]
    rfl
  refine ⟨?_, fun opened ho => ⟨fun n => ⟨?_, ?_⟩, fun operation h => ?_, ?_,
    fun operation answer => perform_of_refusal ho⟩, fun hnone opened ho => ?_⟩
  · match ho : (ran operations).session.opened with
    | none => exact hran.of_closed ho
    | some opened => exact (hran.of_opened ho).heeds
  · exact (Link.moves_iterate_readEnvelope (bus.recorded.device opened.handle) (fun _ => True)
      ⟨opened.link, (ran operations).bus⟩ n).attended (hran.of_opened ho)
  · exact (Link.moves_iterate_readEnvelope (bus.recorded.device opened.handle) (fun _ => False)
      ⟨opened.link, (ran operations).bus⟩ n).goesOn (hran.of_opened ho).statusMode_eq
  · rw [hone]
    exact goesOn_perform ho (hran.of_opened ho).statusMode_eq h
  · rw [hone]
    exact exists_log_close bus ho
  · rw [hone, Operation.perform, bind_pure_apply_snd] at ho ⊢
    exact attended_openUp hran hnone ho

/-- An instrument with a front panel lock. It takes the trigger message and termination characters, and
has no remote control. -/
def panelInfo : DeviceInfo := ⟨0x1334, 2, none, "mock", 2, []⟩

def panelDevice : ScriptedDevice :=
  ((ScriptedDevice.usb488 true).setControlDefault Request.getCapabilities.code
    (Scripted.capabilitiesAnswer 0 1 5 0)).setControlDefault Request.frontPanelLock.code [1]

/-- A session with this instrument, after some operations. -/
def ranPanel (operations : List Operation) : Bench (ScriptedBus × List BusEvent) :=
  (run ScriptedBus.behaviour.recorded operations
    ⟨{ resource := .attached panelInfo, settings := { termChar := some 10 } },
      ({ devices := [(panelInfo, panelDevice)] }, [])⟩).2

/-- The panel is locked, and remote control is neither taken nor given back. -/
theorem advertised_run_panel :
    ((ranPanel [.openUp, .lock, .trigger]).bus.2.length = 6 ∧
      Heeds ScriptedBus.behaviour (some 10) (ranPanel [.openUp, .lock, .trigger]).bus.2) ∧
    (∃ opened, (ranPanel [.openUp, .lock, .trigger]).session.opened = some opened ∧
      opened.link.locked = true ∧
      (let c := (fun c => (Link.readEnvelope (ScriptedBus.behaviour.recorded.device opened.handle)
          c).2)^[2] ⟨opened.link, (ranPanel [.openUp, .lock, .trigger]).bus⟩
       Attended ScriptedBus.behaviour (some 10) opened.handle (fun _ => True) c.link c.device.2) ∧
      GoesOn opened.handle Operation.clear.wants opened.link
        (ranPanel [.openUp, .lock, .trigger]).bus.2
        (ranPanel [.openUp, .lock, .trigger, .clear]).bus.2 ∧
      (∃ events : List Event, events.map (·.call) = opened.link.handBackCalls ∧
        (ranPanel [.openUp, .lock, .trigger, .close]).bus.2 =
          (ranPanel [.openUp, .lock, .trigger]).bus.2 ++ events.map (.call opened.handle) ++
            [.letGo opened.handle]) ∧
      Operation.goToLocal.perform ScriptedBus.behaviour.recorded
          (ranPanel [.openUp, .lock, .trigger]) =
        (.error (.notSupported .remoteLocal), ranPanel [.openUp, .lock, .trigger])) ∧
    ∃ opened, (ranPanel [.openUp]).session.opened = some opened ∧
      Attended ScriptedBus.behaviour (some 10) opened.handle Link.RemoteRequest opened.link
        (ranPanel [.openUp]).bus.2 := by
  have hran (operations : List Operation) : (run ScriptedBus.behaviour.recorded operations
      ⟨{ resource := .attached panelInfo, settings := { termChar := some 10 } },
        ({ devices := [(panelInfo, panelDevice)] }, [])⟩).2 = ranPanel operations := rfl
  have hused := advertised_run ScriptedBus.behaviour (.attached panelInfo) { termChar := some 10 }
    { devices := [(panelInfo, panelDevice)] } [.openUp, .lock, .trigger]
  have hfresh := advertised_run ScriptedBus.behaviour (.attached panelInfo) { termChar := some 10 }
    { devices := [(panelInfo, panelDevice)] } []
  simp only [hran, List.cons_append, List.nil_append] at hused hfresh
  have hlocked : (ranPanel [.openUp, .lock, .trigger]).session.opened.map (fun opened =>
      (opened.link.locked, opened.link.capabilities.remoteLocal)) = some (true, false) := by
    decide +kernel
  have hopened : (ranPanel [.openUp]).session.isOpen := by decide +kernel
  obtain ⟨hheeds, hopen, -⟩ := hused
  obtain ⟨opened, ho, heq⟩ := Option.map_eq_some_iff.1 hlocked
  obtain ⟨hreading, hasked, hclosing, hrefused⟩ := hopen opened ho
  obtain ⟨fresh, hf⟩ := Option.isSome_iff_exists.1 hopened
  have hrefusal : Operation.refusal? opened.link .goToLocal =
      some (.error (.notSupported .remoteLocal)) := by
    rw [Operation.refusal?, remoteRefusal?, (Prod.mk.inj heq).2]
    rfl
  exact ⟨⟨by decide +kernel, hheeds⟩, ⟨opened, ho, (Prod.mk.inj heq).1, (hreading 2).1,
    hasked .clear rfl, hclosing, hrefused .goToLocal _ hrefusal⟩, fresh, hf,
    hfresh.2.2 rfl fresh hf⟩

end Session

end Benchtop
