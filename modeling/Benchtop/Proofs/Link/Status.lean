import Benchtop.Proofs.Link.Moves

/-!
# Reading the status byte by a request

The status byte of an instrument of the USB488 subclass is requested under a tag of its own counter. The
answer repeats the tag, and brings the byte, or announces a notification that brings it and begins with
the tag and the highest bit. `StatusReading` lists what may come of such a request, with the calls that
are made for it. The byte is given in two cases only; in both it comes with the tag of the request
(`StatusReading.head_notification`).

Main statements: requesting the status byte has one of these outcomes, and draws one tag
(`statusReading_readStatusByte`); whatever else a link notes, it draws no such tag (`Notes.statusTags`).
-/

namespace Benchtop

open Usb Wire

variable {σ : Type} {dev : Device σ}

/-- The bytes of a notification that came. -/
def Usb.Event.notification? : Event → Option (List UInt8)
  | ⟨.interruptIn .., .ok data⟩ => some data
  | _ => none

namespace Link

/-- The request `tag` for the status byte, and its answer. -/
def statusEvent (link : Link) (tag : UInt8) (answer : Except BusError (List UInt8)) : Event :=
  ⟨link.statusCall tag, answer⟩

/-- The reading of the endpoint on which the status byte comes. -/
def notificationEvent (link : Link) (endpoint : UInt8) (answer : Except BusError (List UInt8)) :
    Event :=
  ⟨.interruptIn endpoint 2 link.timing.timeout, answer⟩

/-- The outcomes of the request `tag`: the calls, and what they come to. The status byte is in the answer,
or on the endpoint if there is one. -/
inductive StatusReading (link : Link) (tag : UInt8) :
    Option UInt8 → List Event → Except Failure UInt8 → Prop
  /-- The answer has the tag of the request and the status byte. -/
  | answered (status : UInt8) (more : List UInt8) :
    StatusReading link tag none [link.statusEvent tag (.ok (1 :: tag :: status :: more))]
      (.ok status)
  /-- The answer has the tag of the request, and the notification has it, too, and the status byte. -/
  | notified (endpoint : UInt8) (rest : List UInt8) (status : UInt8) (more : List UInt8) :
    StatusReading link tag (some endpoint)
      [link.statusEvent tag (.ok (1 :: tag :: rest)),
        link.notificationEvent endpoint (.ok ((0x80 ||| tag) :: status :: more))] (.ok status)
  /-- There is no answer. -/
  | failed (endpoint : Option UInt8) (error : BusError) :
    StatusReading link tag endpoint [link.statusEvent tag (.error error)] (.error (.bus error))
  | empty (endpoint : Option UInt8) :
    StatusReading link tag endpoint [link.statusEvent tag (.ok [])]
      (.error (.badAnswer (.noData Request.readStatusByte.name)))
  /-- The answer does not begin with success. -/
  | refused (endpoint : Option UInt8) (code : UInt8) (rest : List UInt8) (h : code ≠ 1) :
    StatusReading link tag endpoint [link.statusEvent tag (.ok (code :: rest))]
      (.error (.statusReadFailed code))
  | untagged (endpoint : Option UInt8) :
    StatusReading link tag endpoint [link.statusEvent tag (.ok [1])]
      (.error (.badAnswer (.tooShort Request.readStatusByte.name 2)))
  /-- The answer has the tag of another request. -/
  | foreign (endpoint : Option UInt8) (echo : UInt8) (rest : List UInt8) (h : echo ≠ tag) :
    StatusReading link tag endpoint [link.statusEvent tag (.ok (1 :: echo :: rest))]
      (.error (.tagMismatch tag echo))
  /-- The status byte is missing. -/
  | short :
    StatusReading link tag none [link.statusEvent tag (.ok [1, tag])]
      (.error (.badAnswer (.tooShort Request.readStatusByte.name 3)))
  /-- There is no notification. -/
  | unnotified (endpoint : UInt8) (rest : List UInt8) (error : BusError) :
    StatusReading link tag (some endpoint)
      [link.statusEvent tag (.ok (1 :: tag :: rest)),
        link.notificationEvent endpoint (.error error)] (.error (.bus error))
  | shortNotification (endpoint : UInt8) (rest notification : List UInt8)
    (h : notification.length < 2) :
    StatusReading link tag (some endpoint)
      [link.statusEvent tag (.ok (1 :: tag :: rest)),
        link.notificationEvent endpoint (.ok notification)]
      (.error (.badAnswer (.tooShort "interrupt notification" 2)))
  /-- The notification is that of another request, or of none. -/
  | foreignNotification (endpoint : UInt8) (rest : List UInt8) (echo status : UInt8)
    (more : List UInt8) (h : echo ≠ 0x80 ||| tag) :
    StatusReading link tag (some endpoint)
      [link.statusEvent tag (.ok (1 :: tag :: rest)),
        link.notificationEvent endpoint (.ok (echo :: status :: more))]
      (.error (.tagMismatch (0x80 ||| tag) echo))

/-- Where the status byte is given, no notification was read but that of the request. -/
theorem StatusReading.head_notification {link : Link} {tag : UInt8} {endpoint : Option UInt8}
    {events : List Event} {status : UInt8}
    (h : StatusReading link tag endpoint events (.ok status)) :
    ∀ e ∈ events, ∀ notification ∈ e.notification?, notification.head? = some (0x80 ||| tag) := by
  intro e he notification hn
  cases h with
  | answered =>
    obtain rfl := List.mem_singleton.1 he
    cases hn
  | notified =>
    rcases List.mem_cons.1 he with rfl | he
    · cases hn
    · obtain rfl := List.mem_singleton.1 he
      cases hn
      rfl

/-- The endpoint on which status bytes come. -/
def statusEndpoint? : StatusMode → Option UInt8
  | .interrupt endpoint => some endpoint
  | _ => none

theorem call_of_ok {call : Call} {link : Link} {s t : σ} {answer : call.Answer}
    (h : dev.perform call s = (.ok answer, t)) :
    Link.call dev call ⟨link, s⟩ = (.ok answer, ⟨link, t⟩) := by
  rw [Link.call, attempt, h]
  rfl

theorem call_of_error {call : Call} {link : Link} {s t : σ} {error : BusError}
    (h : dev.perform call s = (.error error, t)) :
    Link.call dev call ⟨link, s⟩ = (.error (.bus error), ⟨link, t⟩) := by
  rw [Link.call, attempt, h]
  rfl

/-- The notification of the request that was answered under its tag. -/
theorem statusReading_notification (dev : Device σ) (link : Link) (tag endpoint : UInt8)
    (rest : List UInt8) (c : Connection σ) :
    ∃ answer t outcome, dev.Trace c.device [link.notificationEvent endpoint answer] t ∧
      StatusReading link tag (some endpoint)
        [link.statusEvent tag (.ok (1 :: tag :: rest)), link.notificationEvent endpoint answer]
        outcome ∧
      (do
        let notification ← Link.call dev (.interruptIn endpoint 2 link.timing.timeout)
        MonadExcept.ofExcept (ofNotification tag notification)) c = (outcome, ⟨c.link, t⟩) := by
  rcases hread : dev.perform (.interruptIn endpoint 2 link.timing.timeout) c.device with
    ⟨e | notification, t⟩
  · exact ⟨_, t, _, ⟨t, hread, rfl⟩, .unnotified endpoint rest e, bind_of_error (call_of_error hread)⟩
  · have hnotified : (do
        let notification ← Link.call dev (.interruptIn endpoint 2 link.timing.timeout)
        MonadExcept.ofExcept (ofNotification tag notification)) c = _ :=
      bind_of_ok (call_of_ok hread)
    rcases notification with _ | ⟨echo, _ | ⟨status, more⟩⟩
    · exact ⟨_, t, _, ⟨t, hread, rfl⟩, .shortNotification endpoint rest [] (by decide), hnotified⟩
    · exact ⟨_, t, _, ⟨t, hread, rfl⟩, .shortNotification endpoint rest [echo] (by simp), hnotified⟩
    · by_cases hecho : echo = 0x80 ||| tag
      · rw [ofNotification, if_pos hecho] at hnotified
        subst hecho
        exact ⟨_, t, _, ⟨t, hread, rfl⟩, .notified endpoint rest status more, hnotified⟩
      · rw [ofNotification, if_neg hecho] at hnotified
        exact ⟨_, t, _, ⟨t, hread, rfl⟩, .foreignNotification endpoint rest echo status more hecho, hnotified⟩

/-- Requesting the status byte draws one tag, and comes to what the answers say. -/
theorem statusReading_requestStatusByte (dev : Device σ) (endpoint : Option UInt8)
    (c : Connection σ) :
    ∃ events t outcome, dev.Trace c.device events t ∧
      StatusReading c.link c.link.statusTags.next.current endpoint events outcome ∧
      requestStatusByte dev endpoint c =
        (outcome, ⟨{ c.link with statusTags := c.link.statusTags.next }, t⟩) := by
  generalize htag : c.link.statusTags.next.current = tag
  have hdrawn : nextStatusTag c =
      (.ok tag, { c with link.statusTags := c.link.statusTags.next }) := by
    rw [nextStatusTag_apply, htag]
  have hstart : requestStatusByte dev endpoint c = _ :=
    (bind_of_ok hdrawn).trans (get_bind_apply _ _)
  rcases hasked : dev.perform (c.link.statusCall tag) c.device with ⟨e | answer, t⟩
  · have ht : dev.Trace c.device [c.link.statusEvent tag (.error e)] t := ⟨t, hasked, rfl⟩
    exact ⟨_, t, _, ht, .failed endpoint e, hstart.trans (bind_of_error (call_of_error hasked))⟩
  have hanswered : requestStatusByte dev endpoint c = _ :=
    hstart.trans (bind_of_ok (call_of_ok hasked))
  have ht : dev.Trace c.device [c.link.statusEvent tag (.ok answer)] t := ⟨t, hasked, rfl⟩
  cases answer with
  | nil => exact ⟨_, t, _, ht, .empty endpoint, hanswered⟩
  | cons code rest =>
    simp only [statusOf, MonadExcept.ofExcept, pure_bind] at hanswered
    by_cases hcode : code = 1
    · subst hcode
      rw [if_neg (not_not_intro (Status.ofCode_eq_success_iff.2 rfl))] at hanswered
      cases rest with
      | nil => exact ⟨_, t, _, ht, .untagged endpoint, hanswered⟩
      | cons echo rest =>
        simp only [List.drop_succ_cons, List.drop_zero] at hanswered
        by_cases hecho : echo = tag
        · subst hecho
          rw [if_neg (not_not_intro rfl)] at hanswered
          cases endpoint with
          | none =>
            cases rest with
            | nil => exact ⟨_, t, _, ht, .short, hanswered⟩
            | cons status more => exact ⟨_, t, _, ht, .answered status more, hanswered⟩
          | some endpoint =>
            obtain ⟨notification, u, outcome, hu, hreading, hrest⟩ := statusReading_notification dev
              c.link echo endpoint rest ⟨{ c.link with statusTags := c.link.statusTags.next }, t⟩
            exact ⟨_, u, outcome, ht.append hu, hreading, hanswered.trans hrest⟩
        · rw [if_pos hecho] at hanswered
          exact ⟨_, t, _, ht, .foreign endpoint echo rest hecho, hanswered⟩
    · rw [if_pos (mt Status.ofCode_eq_success_iff.1 hcode), Status.code_ofCode] at hanswered
      exact ⟨_, t, _, ht, .refused endpoint code rest hcode, hanswered⟩

/-- Where the status byte is read by a request, reading it is that. -/
theorem statusReading_readStatusByte (dev : Device σ) {c : Connection σ}
    (h : c.link.statusMode.isExtended) :
    ∃ events t outcome, dev.Trace c.device events t ∧
      StatusReading c.link c.link.statusTags.next.current (statusEndpoint? c.link.statusMode) events
        outcome ∧
      readStatusByte dev c =
        (outcome, ⟨{ c.link with statusTags := c.link.statusTags.next }, t⟩) := by
  rw [readStatusByte, get_bind_apply]
  cases hmode : c.link.statusMode with
  | basic =>
    rw [hmode] at h
    cases h
  | interrupt endpoint => exact statusReading_requestStatusByte dev (some endpoint) c
  | control => exact statusReading_requestStatusByte dev none c

/-! ## Tags of requests -/

end Link

/-- The tag of a request for the status byte. -/
def Usb.Event.statusTag? : Event → Option UInt8
  | ⟨.controlIn setup _ _, _⟩ =>
    if setup.request = Request.readStatusByte.code then some setup.value.toUInt8 else none
  | _ => none

theorem Usb.Event.statusTag?_of_isPlain {call : Call} (h : call.isPlain)
    (answer : Except BusError call.Answer) : (Event.mk call answer).statusTag? = none := by
  cases call with
  | controlIn setup length timeout =>
    have hcode : setup.request ≠ Request.readStatusByte.code := by
      simp only [Call.isPlain, isPlainCode, Bool.and_eq_true, bne_iff_ne] at h
      exact h.1
    exact if_neg hcode
  | _ => rfl

theorem Usb.Event.statusTag?_of_not_isTraffic {e : Event} (h : ¬ e.call.isTraffic) :
    e.statusTag? = none := by
  obtain ⟨call, answer⟩ := e
  cases call with
  | controlIn => exact absurd rfl h
  | _ => rfl

namespace Link

theorem statusTag?_statusEvent (link : Link) (tag : UInt8) (answer : Except BusError (List UInt8)) :
    (link.statusEvent tag answer).statusTag? = some tag := by
  simp [statusEvent, statusCall, Event.statusTag?, Setup.toInterface]

/-- Reading the status byte is one request. -/
theorem StatusReading.filterMap_statusTag? {link : Link} {tag : UInt8} {endpoint : Option UInt8}
    {events : List Event} {outcome : Except Failure UInt8}
    (h : StatusReading link tag endpoint events outcome) :
    events.filterMap Event.statusTag? = [tag] := by
  cases h <;>
  · rw [List.filterMap_cons_some (statusTag?_statusEvent link tag _)]
    rfl

/-- A link draws a tag for a request for the status byte, and makes no such request without. -/
theorem Notes.statusTags {wants : Request → Prop} {link link' : Link} {e : Event}
    (h : link.Notes wants e link') :
    (e.statusTag? = none ∧ link'.statusTags = link.statusTags) ∨
      (e.statusTag? = some link.statusTags.next.current ∧
        link'.statusTags = link.statusTags.next ∧ wants .readStatusByte) := by
  cases h with
  | call hplain => exact .inl ⟨Event.statusTag?_of_isPlain hplain _, rfl⟩
  | transfer => exact .inl ⟨rfl, rfl⟩
  | statusByte _ hwants answer => exact .inr ⟨statusTag?_statusEvent link _ answer, rfl, hwants⟩
  | remote => exact .inl ⟨rfl, rfl⟩
  | locked => exact .inl ⟨rfl, rfl⟩

/-- An operation that is not made for the status byte draws no tag for it. -/
theorem NotesAll.statusTags {wants : Request → Prop} {link link' : Link} {events : List Event}
    (h : NotesAll wants link events link') (hwants : ¬ wants .readStatusByte) :
    events.filterMap Event.statusTag? = [] ∧ link'.statusTags = link.statusTags := by
  induction h with
  | nil => exact ⟨rfl, rfl⟩
  | concat _ hn ih =>
    rcases hn.statusTags with ⟨hnone, htags⟩ | ⟨-, -, h⟩
    · exact ⟨by simp [ih.1, hnone], htags.trans ih.2⟩
    · exact absurd h hwants

end Link

end Benchtop
