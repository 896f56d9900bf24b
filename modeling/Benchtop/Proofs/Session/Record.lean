import Benchtop.Proofs.Link.HandingBack
import Benchtop.Proofs.Session.Run
import Benchtop.Proofs.Trace

/-!
# What is recorded since an opening

Whatever is done, the record of a bus only grows (`log_prefix_perform`). It tells which device was opened
last, and which calls have been made since (`latestOpening`). The calls since the opening of a link are those
it was made by and those it has noted afterwards. So a property of a link and these calls holds of every open
session if it holds when the device has told its capabilities, and lasts with every note (`Since.lasts`).
-/

namespace Benchtop

open Usb Wire

variable {σ : Type} {bus : Bus σ}

/-! ## The latest opening -/

/-- A device that was opened, and the calls made since. -/
structure Opening where
  info : DeviceInfo
  number : Nat
  events : List Event

/-- The latest opening, after one more event. -/
def Usb.BusEvent.openingAfter (latest : Option Opening) : BusEvent → Option Opening
  | .openDevice info (.ok number) => some ⟨info, number, []⟩
  | .call _ event =>
    latest.map fun opening => { opening with events := opening.events ++ [event] }
  | _ => latest

/-- The latest opening of a device. -/
def latestOpening (log : List BusEvent) : Option Opening := log.foldl BusEvent.openingAfter none

theorem latestOpening_concat (log : List BusEvent) (event : BusEvent) :
    latestOpening (log ++ [event]) = event.openingAfter (latestOpening log) := by
  simp [latestOpening]

/-- More calls belong to the latest opening. -/
theorem latestOpening_append_calls {log : List BusEvent} {opening : Opening}
    (h : latestOpening log = some opening) (number : Nat) (events : List Event) :
    latestOpening (log ++ events.map (.call number)) =
      some { opening with events := opening.events ++ events } := by
  induction events generalizing log opening with
  | nil => simpa using h
  | cons event events ih =>
    have hevent : latestOpening (log ++ [.call number event]) =
        some { opening with events := opening.events ++ [event] } := by
      rw [latestOpening_concat, h]
      rfl
    rw [List.map_cons, List.append_cons, ih hevent, List.append_assoc]
    rfl

theorem latestOpening_openDevice (log : List BusEvent) (info : DeviceInfo) (number : Nat)
    (events : List Event) :
    latestOpening (log ++ .openDevice info (.ok number) :: events.map (.call number)) =
      some ⟨info, number, events⟩ := by
  have hopened : latestOpening (log ++ [.openDevice info (.ok number)]) =
      some ⟨info, number, []⟩ := latestOpening_concat log _
  rw [List.append_cons]
  exact latestOpening_append_calls hopened number events

namespace Session

/-! ## Openings and operations -/

/-- The opening of a device is recorded. -/
theorem log_of_openDevice {info : DeviceInfo} {number : Nat} {s t : σ × List BusEvent}
    (h : bus.recorded.openDevice info s = (.ok number, t)) :
    t.2 = s.2 ++ [.openDevice info (.ok number)] := by
  have hanswer : (bus.openDevice info s.1).1 = .ok number := congrArg Prod.fst h
  have ht : (bus.recorded.openDevice info s).2 = t := congrArg Prod.snd h
  rw [← ht, ← hanswer]
  rfl

/-- A link that has been made was made by the calls since the device was opened. -/
theorem exists_madeBy_of_openLink {info : DeviceInfo} {settings : Settings}
    {s t : σ × List BusEvent} {opened : OpenedDevice}
    (h : openLink bus.recorded info settings s = (.ok opened, t)) :
    ∃ events, t.2 = s.2 ++ .openDevice info (.ok opened.handle) :: events.map (.call opened.handle) ∧
      Link.MadeBy info settings opened.link events := by
  rw [openLink_apply] at h
  rcases hfound : bus.recorded.openDevice info s with ⟨e | handle, u⟩
  · rw [hfound] at h
    cases h
  · simp only [hfound] at h
    rcases hmade : Link.establish (bus.recorded.device handle) info settings u with ⟨e | link, v⟩
    · rw [hmade] at h
      cases h
    · rw [hmade] at h
      cases h
      obtain ⟨events, ht, hmadeBy⟩ := Link.exists_madeBy_of_establish hmade
      refine ⟨events, ?_, hmadeBy⟩
      rw [ht.busLog_eq, log_of_openDevice hfound, List.append_assoc]
      rfl

/-- An operation of the link is recorded as calls that the link has noted. -/
theorem exists_notesAll_of_perform (bus : Bus σ) {b : Bench (σ × List BusEvent)}
    {opened : OpenedDevice} (ho : b.session.opened = some opened) {operation : Operation} (h : operation.usesLink) :
    ∃ link s events, (operation.perform bus.recorded b).2 =
        ⟨{ b.session with opened := some { opened with link } }, s⟩ ∧
      s.2 = b.bus.2 ++ events.map (.call opened.handle) ∧
      Link.NotesAll operation.makes opened.link events link := by
  obtain ⟨c, hm, hperform⟩ := exists_movesFor_of_perform bus.recorded ho h
  obtain ⟨events, ht, hnotes⟩ := hm.exists_notes operation.not_forall_makes
  exact ⟨c.link, c.device, events, hperform, ht.busLog_eq, hnotes⟩

/-! ## The record grows -/

/-- What has been recorded stays recorded. -/
def Extends (s t : σ × List BusEvent) : Prop := s.2 <+: t.2

instance : Std.Refl (Extends (σ := σ)) where
  refl s := List.prefix_refl s.2

instance : IsTrans (σ × List BusEvent) Extends where
  trans _ _ _ h h' := h.trans h'

theorem extends_perform (bus : Bus σ) (number : Nat) (call : Call) :
    Respects Extends ((bus.recorded.device number).perform call) :=
  fun _ => List.prefix_append _ _

theorem extends_trace {number : Nat} {events : List Event} {s t : σ × List BusEvent}
    (h : (bus.recorded.device number).Trace s events t) : Extends s t :=
  h.related (extends_perform bus number)

theorem extends_establish (bus : Bus σ) (number : Nat) (info : DeviceInfo) (settings : Settings) :
    Respects Extends (Link.establish (bus.recorded.device number) info settings) :=
  Link.respects_establish (extends_perform bus number) info settings

theorem extends_resolve (bus : Bus σ) (resource : Resource) :
    Respects Extends (resolve bus.recorded resource) :=
  respects_resolve (fun _ => List.prefix_append _ _) resource

/-- What has been recorded lasts through everything that a session does. -/
theorem lasts_recorded (bus : Bus σ) (settings : Settings) (log : List BusEvent) :
    Lasts bus.recorded settings (fun s => log <+: s.2) fun _ s => log <+: s.2 where
  resolve resource s h := h.trans (extends_resolve bus resource s)
  openLink info timeoutMs := by
    have hmake (number : Nat) : Ensures (fun s => log <+: s.2)
        (Link.establish (bus.recorded.device number) info { settings with timeoutMs })
        (fun _ s => log <+: s.2) fun _ s => log <+: s.2 :=
      (extends_establish bus number info _).ensures fun s t ht h => h.trans ht
    refine ensures_openLink_of (fun s h => ?_) fun number =>
      (hmake number).mono (fun _ _ => id) fun _ _ h => h.trans (List.prefix_append _ _)
    have hopening : log <+: (bus.recorded.openDevice info s).2.2 := h.trans (List.prefix_append _ _)
    generalize bus.recorded.openDevice info s = found at *
    rcases found with ⟨e | number, t⟩ <;> exact hopening
  setTimeout h _ := h
  operate h hm := by
    obtain ⟨events, ht, -⟩ := hm.exists_trace
    exact h.trans (extends_trace ht)
  close {opened s} h :=
    (h.trans (Link.related_handBack (extends_perform bus opened.handle) ⟨opened.link, s⟩)).trans
      (List.prefix_append _ _)

/-- An operation, succeed or fail, adds to the record and takes nothing from it. -/
theorem log_prefix_perform (bus : Bus σ) (b : Bench (σ × List BusEvent)) (operation : Operation) :
    b.bus.2 <+: (operation.perform bus.recorded b).2.bus.2 := by
  have hb : During b.session.settings (fun s => b.bus.2 <+: s.2) (fun _ s => b.bus.2 <+: s.2) b := by
    refine ⟨⟨b.session.settings.timeoutMs, rfl⟩, ?_⟩
    split <;> exact List.prefix_refl _
  have hafter := ((lasts_recorded bus b.session.settings b.bus.2).during_run [operation] hb).holds
  split at hafter <;> exact hafter

/-- A session that has been opened has a link that was made by the calls since the device was opened,
which was done last. -/
theorem exists_madeBy_of_openUp {b : Bench (σ × List BusEvent)} {opened : OpenedDevice}
    (hnone : b.session.opened = none)
    (ho : (openUp bus.recorded b).2.session.opened = some opened) :
    ∃ info found events,
      (openUp bus.recorded b).2.bus.2 = b.bus.2 ++ found ++
        .openDevice info (.ok opened.handle) :: events.map (.call opened.handle) ∧
      Link.MadeBy info b.session.settings opened.link events := by
  obtain ⟨info, s, t, hfound, hmade, hopened⟩ := exists_of_opened_openUp hnone ho
  obtain ⟨events, hlog, hmadeBy⟩ := exists_madeBy_of_openLink hmade
  have hextends := extends_resolve bus b.session.resource b.bus
  rw [hfound] at hextends
  obtain ⟨found, hlog'⟩ := hextends
  refine ⟨info, found, events, ?_, hmadeBy⟩
  rw [hopened, hlog']
  exact hlog

/-! ## What lasts from the opening on -/

/-- A property of a link and the calls since its opening that holds when the device has told its
capabilities and lasts with every note, and that has nothing to do with what handing back and a new
timeout change. -/
structure Since (holds : Link → List Event → Prop) : Prop where
  learned : ∀ info settings interface endpoints detached capabilities bytes before,
    (∀ e ∈ before, ¬ e.call.isTraffic) →
      let link := Link.fresh info settings interface endpoints detached
      holds (link.learned capabilities) (before ++ [⟨link.capabilitiesCall, .ok bytes⟩])
  note : ∀ {link events e link'}, holds link events → link.Notes (fun _ => True) e link' →
    holds link' (events ++ [e])
  forget : ∀ {link events}, holds link events → ∀ remote locked,
    holds { link with remote, locked } events
  setTimeout : ∀ {link events}, holds link events → ∀ timeout,
    holds { link with timing.timeout := timeout } events

/-- The property holds of the link to the device that was opened last. -/
def HoldsSince (holds : Link → List Event → Prop) (opened : OpenedDevice) (log : List BusEvent) :
    Prop :=
  ∃ info events, latestOpening log = some ⟨info, opened.handle, events⟩ ∧ holds opened.link events

namespace Since

variable {holds : Link → List Event → Prop}

theorem notesAll (h : Since holds) {wants : Request → Prop} {link link' : Link}
    {before events : List Event} (hlink : holds link before)
    (hn : Link.NotesAll wants link events link') : holds link' (before ++ events) := by
  induction hn with
  | nil => rwa [List.append_nil]
  | concat _ hn ih =>
    rw [← List.append_assoc]
    exact h.note ih (hn.mono fun _ _ => trivial)

theorem madeBy (h : Since holds) {info : DeviceInfo} {settings : Settings} {link : Link}
    {events : List Event} (hmade : Link.MadeBy info settings link events) : holds link events := by
  obtain ⟨before, interface, endpoints, detached, bytes, capabilities, after, rfl, hbefore, hn⟩ := hmade
  rw [List.append_cons]
  exact h.notesAll (h.learned info settings interface endpoints detached capabilities bytes before
    hbefore) hn

theorem moves (h : Since holds) {handle : Nat} {c c' : Connection (σ × List BusEvent)}
    (hm : Link.Moves (bus.recorded.device handle) c c')
    (hc : HoldsSince holds ⟨handle, c.link⟩ c.device.2) :
    HoldsSince holds ⟨handle, c'.link⟩ c'.device.2 := by
  induction hm with
  | refl => exact hc
  | tail _ hstep ih =>
    obtain ⟨info, events, hopening, hevents⟩ := ih
    cases hstep with
    | forget => exact ⟨info, events, hopening, h.forget hevents _ _⟩
    | note hn =>
      refine ⟨info, _, ?_, h.note hevents hn⟩
      exact latestOpening_append_calls hopening handle [_]

/-- The property holds while a session is open. -/
theorem lasts (h : Since holds) (bus : Bus σ) (settings : Settings) :
    Lasts bus.recorded settings (fun _ => True) fun opened s => HoldsSince holds opened s.2 where
  resolve _ _ _ := trivial
  openLink info timeoutMs s _ := by
    split
    · next opened t hopened =>
      obtain ⟨events, hlog, hmade⟩ := exists_madeBy_of_openLink hopened
      refine ⟨info, events, ?_, h.madeBy hmade⟩
      rw [hlog, latestOpening_openDevice]
    · trivial
  setTimeout hopened timeout := by
    obtain ⟨info, events, hopening, hevents⟩ := hopened
    exact ⟨info, events, hopening, h.setTimeout hevents timeout⟩
  operate hopened hm := h.moves hm hopened
  close _ := trivial

end Since

end Session

end Benchtop
