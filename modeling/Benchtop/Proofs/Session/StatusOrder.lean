import Benchtop.Proofs.Link.Status
import Benchtop.Proofs.Session.Record
import Benchtop.Scripted.Bus

/-!
# No stale status byte

The requests for the status byte of an open session are numbered, and the counter of its link is where
they have brought it (`StatusTagged`). Nothing else draws a tag from it, and it is not moved back when a
request fails. So of any 126 requests in a row no two bear the same tag, and a notification that comes
late is told from the one that is awaited.

Main statement: at any point of any run, reading the status byte makes one request, with the next tag,
and comes to what the answers to this request say. A notification that gives the status byte is neither
one of the 125 requests before nor that of a service request (`statusByte_run`).
-/

namespace Benchtop

open Usb Wire

variable {σ : Type} {bus : Bus σ}

/-- The requests for the status byte bear the tags 2, 3, …, 127, 2, … in this order, and the counter of
the link has given out these tags and no more. -/
structure StatusTagged (link : Link) (events : List Event) : Prop where
  numbered : events.filterMap Event.statusTag? =
    (List.range (events.filterMap Event.statusTag?).length).map statusTagAt
  statusTags_eq : link.statusTags =
    StatusTagCounter.next^[(events.filterMap Event.statusTag?).length] {}

namespace StatusTagged

variable {link : Link} {events : List Event}

/-- The next tag is that of the next request. -/
theorem current_next (h : StatusTagged link events) :
    link.statusTags.next.current = statusTagAt (events.filterMap Event.statusTag?).length := by
  rw [h.statusTags_eq, ← StatusTagCounter.current_iterate_next, Function.iterate_succ_apply']

/-- Another call draws no tag. -/
theorem other (h : StatusTagged link events) {e : Event} {link' : Link} (he : e.statusTag? = none)
    (htags : link'.statusTags = link.statusTags) : StatusTagged link' (events ++ [e]) := by
  have hevents : (events ++ [e]).filterMap Event.statusTag? = events.filterMap Event.statusTag? := by
    simp [he]
  exact ⟨by rw [hevents]; exact h.numbered, by rw [hevents, htags]; exact h.statusTags_eq⟩

/-- A request with the next tag. -/
theorem request (h : StatusTagged link events) {e : Event} {link' : Link}
    (he : e.statusTag? = some link.statusTags.next.current)
    (htags : link'.statusTags = link.statusTags.next) : StatusTagged link' (events ++ [e]) := by
  have hevents : (events ++ [e]).filterMap Event.statusTag? = events.filterMap Event.statusTag? ++
      [statusTagAt (events.filterMap Event.statusTag?).length] := by
    simp [he, h.current_next]
  constructor
  · rw [hevents, List.length_append, List.length_singleton, List.range_succ, List.map_append,
      ← h.numbered]
    rfl
  · rw [hevents, List.length_append, List.length_singleton, htags, Function.iterate_succ_apply',
      ← h.statusTags_eq]

end StatusTagged

/-- The tags of the requests for the status byte since the latest opening. -/
def statusTagsSinceOpening (log : List BusEvent) : List UInt8 :=
  ((latestOpening log).map fun opening => opening.events.filterMap Event.statusTag?).getD []

namespace Session

/-- A link makes no request for the status byte but with the next tag. -/
theorem since_statusTagged : Since StatusTagged where
  learned info settings interface endpoints detached capabilities bytes before hbefore := by
    intro link
    have hnone : (before ++ [Event.mk link.capabilitiesCall (.ok bytes)]).filterMap
        Event.statusTag? = [] := by
      refine List.filterMap_eq_nil_iff.2 fun e he => ?_
      rcases List.mem_append.1 he with he | he
      · exact Event.statusTag?_of_not_isTraffic (hbefore e he)
      · rw [List.mem_singleton.1 he]
        rfl
    exact ⟨by rw [hnone]; rfl, by rw [hnone]; rfl⟩
  note {link events e link'} h hn := by
    rcases hn.statusTags with ⟨hnone, htags⟩ | ⟨hsome, htags, -⟩
    · exact h.other hnone htags
    · exact h.request hsome htags
  forget h _ _ := ⟨h.numbered, h.statusTags_eq⟩
  setTimeout h _ := ⟨h.numbered, h.statusTags_eq⟩

/-- More calls of the device that was opened last. -/
theorem statusTagsSinceOpening_append {log : List BusEvent} {opening : Opening}
    (h : latestOpening log = some opening) (number : Nat) (events : List Event) :
    statusTagsSinceOpening (log ++ events.map (.call number)) =
      statusTagsSinceOpening log ++ events.filterMap Event.statusTag? := by
  simp [statusTagsSinceOpening, latestOpening_append_calls h, h]

/-- At any point of a run, on a bus of any behaviour, with an instrument whose status byte is requested:
the requests since the opening have borne the tags 2, 3, …, 127, 2, … in this order, whatever came of
them, and of 126 in a row no two bear the same. No operation but the reading of the status byte makes
such a request, and that makes one, with the next tag. It changes nothing else of the session, bulk tags
included. The status byte is given only if the answers to this very request bring it: neither a service
request nor a notification that belongs to one of the 125 requests before is taken for it. -/
theorem statusByte_run (bus : Bus σ) (resource : Resource) (settings : Settings) (start : σ)
    (operations : List Operation) :
    let b := (run bus.recorded operations ⟨{ resource, settings }, (start, [])⟩).2
    ∀ opened, b.session.opened = some opened → opened.link.statusMode.isExtended →
      let tags := statusTagsSinceOpening b.bus.2
      let tag := statusTagAt tags.length
      tags = (List.range tags.length).map statusTagAt ∧
      (∀ i j, i < j → j < i + 126 → statusTagAt i ≠ statusTagAt j) ∧
      (∀ operation : Operation, operation.usesLink → operation ≠ .readStatusByte →
        statusTagsSinceOpening (operation.perform bus.recorded b).2.bus.2 = tags) ∧
      ∃ events outcome s,
        Operation.readStatusByte.perform bus.recorded b =
          (outcome.map .byte, ⟨{ b.session with
            opened := some { opened with link.statusTags := opened.link.statusTags.next } }, s⟩) ∧
        s.2 = b.bus.2 ++ events.map (.call opened.handle) ∧
        statusTagsSinceOpening s.2 = tags ++ [tag] ∧
        Link.StatusReading opened.link tag (Link.statusEndpoint? opened.link.statusMode) events
          outcome ∧
        ∀ status, outcome = .ok status → ∀ e ∈ events, ∀ notification ∈ e.notification?,
          notification.head? ≠ some 0x81 ∧
          ∀ earlier < tags.length, tags.length < earlier + 126 →
            notification.head? ≠ some (0x80 ||| statusTagAt earlier) := by
  intro b opened ho hmode tags tag
  have hb : During settings (fun _ => True)
      (fun opened s => HoldsSince StatusTagged opened s.2) b :=
    (since_statusTagged.lasts bus settings).during_run operations
      ⟨⟨settings.timeoutMs, rfl⟩, trivial⟩
  obtain ⟨info, events, hopening, htagged⟩ := hb.of_opened ho
  have htags : tags = events.filterMap Event.statusTag? := by
    simp [tags, statusTagsSinceOpening, hopening]
  have htag : opened.link.statusTags.next.current = tag := by
    rw [htagged.current_next, ← htags]
  refine ⟨?_, fun i j => statusTagAt_ne, fun operation huses hne => ?_, ?_⟩
  · rw [htags]
    exact htagged.numbered
  · obtain ⟨link, s, asked, hperform, hlog, hnotes⟩ :=
      exists_notesAll_of_perform bus ho huses
    have hnone := (hnotes.statusTags (Operation.not_makes_readStatusByte hne)).1
    rw [hperform, hlog, statusTagsSinceOpening_append hopening, hnone, List.append_nil]
  · obtain ⟨asked, t, outcome, ht, hreading, hread⟩ := Link.statusReading_readStatusByte
      (bus.recorded.device opened.handle) (c := ⟨opened.link, b.bus⟩) hmode
    rw [htag] at hreading
    refine ⟨asked, outcome, t, ?_, ht.busLog_eq, ?_, hreading, ?_⟩
    · rw [Operation.perform, bind_pure_apply, onLink_apply ho, hread]
    · rw [ht.busLog_eq, statusTagsSinceOpening_append hopening, hreading.filterMap_statusTag?]
    · rintro status rfl e he notification hn
      rw [hreading.head_notification e he notification hn]
      refine ⟨fun h => or_statusTagAt_ne_serviceRequest _ (Option.some.inj h), ?_⟩
      intro earlier hlt hnear h
      exact or_statusTagAt_ne hlt hnear (Option.some.inj h).symm

/-- An instrument that tells its status byte on the interrupt endpoint. -/
def noticeInfo : DeviceInfo := ⟨1, 2, none, "mock", 2, []⟩

/-- The notification of the request 2 comes late, after one that announces a service request. Then
comes that of the request 5. -/
def noticeDevice : ScriptedDevice :=
  { (ScriptedDevice.usb488 true).setControlDefault Request.getCapabilities.code
      (Scripted.capabilitiesAnswer 0 0 4 0) with
    controlQueue := [2, 3, 4, 5].map fun tag =>
      (Request.readStatusByte.code, .ok [1, tag, 0])
    interruptQueue := [.error (.timedOut 5000), .ok [0x81, 9], .ok [0x82, 7], .ok [0x85, 0x50]] }

/-- A session with this instrument, after three readings of the status byte. -/
def afterThreeReadings : Bench (ScriptedBus × List BusEvent) :=
  (run ScriptedBus.behaviour.recorded [.openUp, .readStatusByte, .readStatusByte, .readStatusByte]
    ⟨{ resource := .attached noticeInfo, settings := {} },
      ({ devices := [(noticeInfo, noticeDevice)] }, [])⟩).2

/-- Neither of the notifications that come first is taken for the status byte, and the fourth reading
gives it. -/
theorem statusByte_run_late :
    statusTagsSinceOpening afterThreeReadings.bus.2 = [2, 3, 4] ∧
    ∃ opened, afterThreeReadings.session.opened = some opened ∧
      opened.link.statusMode = .interrupt 0x83 ∧
      ∃ events s,
        Operation.readStatusByte.perform ScriptedBus.behaviour.recorded afterThreeReadings =
          (.ok (.byte 0x50), ⟨{ afterThreeReadings.session with
            opened := some { opened with link.statusTags := opened.link.statusTags.next } }, s⟩) ∧
        statusTagsSinceOpening s.2 = [2, 3, 4, 5] ∧
        Link.StatusReading opened.link 5 (some 0x83) events (.ok 0x50) ∧
        ∀ e ∈ events, ∀ notification ∈ e.notification?,
          notification.head? ≠ some 0x81 ∧ notification.head? ≠ some 0x82 := by
  have hmode : afterThreeReadings.session.opened.map (·.link.statusMode) = some (.interrupt 0x83) := by
    decide +kernel
  have htags : statusTagsSinceOpening afterThreeReadings.bus.2 = [2, 3, 4] := by decide +kernel
  have hgiven : (Operation.readStatusByte.perform ScriptedBus.behaviour.recorded
      afterThreeReadings).1.toOption = some (.byte 0x50) := by decide +kernel
  have hran : (run ScriptedBus.behaviour.recorded
      [.openUp, .readStatusByte, .readStatusByte, .readStatusByte]
      ⟨{ resource := .attached noticeInfo, settings := {} },
        ({ devices := [(noticeInfo, noticeDevice)] }, [])⟩).2 = afterThreeReadings := rfl
  have hrun := statusByte_run ScriptedBus.behaviour (.attached noticeInfo) {}
    { devices := [(noticeInfo, noticeDevice)] }
    [.openUp, .readStatusByte, .readStatusByte, .readStatusByte]
  simp only [hran, htags] at hrun
  obtain ⟨opened, ho, hmode⟩ := Option.map_eq_some_iff.1 hmode
  have hextended : opened.link.statusMode.isExtended := by
    rw [hmode]
    rfl
  obtain ⟨-, -, -, events, outcome, s, hperform, -, hasked, hreading, hfresh⟩ :=
    hrun opened ho hextended
  rw [hmode] at hreading
  obtain rfl : outcome = .ok 0x50 := by
    rw [hperform] at hgiven
    cases outcome with
    | error => cases hgiven
    | ok status => cases hgiven; rfl
  refine ⟨htags, opened, ho, hmode, events, s, hperform, hasked, hreading,
    fun e he notification hn => ?_⟩
  obtain ⟨hservice, hearlier⟩ := hfresh 0x50 rfl e he notification hn
  exact ⟨hservice, hearlier 0 (by decide) (by decide)⟩

end Session

end Benchtop
