import Benchtop.Proofs.Session.Run
import Benchtop.Proofs.Trace
import Benchtop.Scripted.Bus

/-!
# Bulk tags in order

A bus that records its events keeps the bulk OUT transfers of a session in their order. Whatever the
devices answer, the transfers since the latest opening of a device are numbered, and the counter of an
open link is where these transfers have brought it (`Tagged`): a step of an operation that makes a
transfer draws the next tag for it, and no other step makes a transfer or draws a tag
(`Link.Moves.inOrder`).

Main statement: this holds after every run of operations, at every event before, and all the while a
message is being read, even one that never ends (`tagOrder_run`).
-/

namespace Benchtop

open Usb Wire

variable {σ : Type} {bus : Bus σ}

/-! ## Transfers in a log -/

/-- The bulk OUT transfers since the latest opening of a device, after one more event. -/
def Usb.BusEvent.sentAfter (sent : List (List UInt8)) : BusEvent → List (List UInt8)
  | .openDevice .. => []
  | .call _ event => sent ++ event.sent?.toList
  | _ => sent

/-- The bulk OUT transfers since the latest opening of a device. -/
def sentSinceOpening (log : List BusEvent) : List (List UInt8) :=
  log.foldl BusEvent.sentAfter []

theorem sentSinceOpening_concat (log : List BusEvent) (event : BusEvent) :
    sentSinceOpening (log ++ [event]) = event.sentAfter (sentSinceOpening log) := by
  simp [sentSinceOpening]

/-- The transfers of a device follow those that were made before. -/
theorem sentSinceOpening_append_calls (log : List BusEvent) (number : Nat) (events : List Event) :
    sentSinceOpening (log ++ events.map (.call number)) =
      sentSinceOpening log ++ events.filterMap Event.sent? := by
  induction events generalizing log with
  | nil => simp
  | cons event events ih =>
    rw [List.map_cons, ← List.concat_append, List.concat_eq_append, ih, sentSinceOpening_concat]
    cases h : event.sent? <;> simp [BusEvent.sentAfter, h]

/-- The transfers of every opening are numbered, up to every event of the log. -/
def AllNumbered (log : List BusEvent) : Prop :=
  ∀ past, past <+: log → Numbered (sentSinceOpening past)

theorem AllNumbered.concat {log : List BusEvent} (h : AllNumbered log) {event : BusEvent}
    (he : Numbered (event.sentAfter (sentSinceOpening log))) : AllNumbered (log ++ [event]) := by
  intro past hpast
  rcases List.prefix_concat_iff.1 hpast with rfl | hpast
  · rwa [sentSinceOpening_concat]
  · exact h past hpast

/-- The transfers are numbered, and the counter has given out their tags and no more. -/
structure Tagged (tags : TagCounter) (log : List BusEvent) : Prop where
  allNumbered : AllNumbered log
  tags_eq : tags = TagCounter.next^[(sentSinceOpening log).length] {}

namespace Tagged

variable {tags : TagCounter} {log : List BusEvent}

/-- An event that is neither a bulk OUT transfer nor an opening changes nothing. -/
theorem concat (h : Tagged tags log) {event : BusEvent}
    (he : ∀ sent, event.sentAfter sent = sent) : Tagged tags (log ++ [event]) := by
  refine ⟨h.allNumbered.concat ?_, ?_⟩
  · rw [he]
    exact h.allNumbered log (List.prefix_refl log)
  · rw [sentSinceOpening_concat, he]
    exact h.tags_eq

/-- A transfer that bears the next tag. -/
theorem transfer (h : Tagged tags log) {event : BusEvent} {transfer : List UInt8}
    (ht : Bears tags.next.current transfer) (he : ∀ sent, event.sentAfter sent = sent ++ [transfer]) :
    Tagged tags.next (log ++ [event]) := by
  have hnext : tags.next = TagCounter.next^[(sentSinceOpening log).length + 1] {} := by
    rw [Function.iterate_succ_apply', ← h.tags_eq]
  refine ⟨h.allNumbered.concat ?_, ?_⟩
  · rw [hnext, TagCounter.current_iterate_next] at ht
    rw [he]
    exact (h.allNumbered log (List.prefix_refl log)).concat ht
  · rw [sentSinceOpening_concat, he, List.length_append]
    exact hnext

/-- An opening starts the tags anew. -/
theorem opening (h : AllNumbered log) (info : DeviceInfo) (answer : Except BusError Nat) :
    Tagged {} (log ++ [.openDevice info answer]) := by
  refine ⟨h.concat numbered_nil, ?_⟩
  rw [sentSinceOpening_concat]
  rfl

/-- The counter shows the tag of the latest transfer, and 0 before the first. -/
theorem current (h : Tagged tags log) :
    match (sentSinceOpening log).getLast? with
    | none => tags.current = 0
    | some transfer => Bears tags.current transfer := by
  have hnumbered := h.allNumbered log (List.prefix_refl log)
  rw [h.tags_eq]
  cases hlast : (sentSinceOpening log).getLast? with
  | none =>
    rw [List.getLast?_eq_none_iff.1 hlast]
    rfl
  | some transfer =>
    obtain ⟨before, he⟩ := List.getLast?_eq_some_iff.1 hlast
    rw [he] at hnumbered ⊢
    have hbears := hnumbered before.length (by simp)
    rw [List.length_append, List.length_singleton, TagCounter.current_iterate_next]
    simpa using hbears

end Tagged

/-! ## Calls and moves -/

section

variable {handle : Nat} {tags : TagCounter}

/-- A call other than a bulk OUT transfer leaves the tags in order. -/
theorem tagged_perform {call : Call} (hc : ∀ answer, (Event.mk call answer).sent? = none)
    {s : σ × List BusEvent} (h : Tagged tags s.2) :
    Tagged tags ((bus.recorded.device handle).perform call s).2.2 := by
  refine Tagged.concat h fun sent => ?_
  rw [BusEvent.sentAfter, hc]
  exact List.append_nil sent

theorem sent?_eq_none_of_isPlain {call : Call} (h : call.isPlain)
    (answer : Except BusError call.Answer) : (Event.mk call answer).sent? = none := by
  cases call <;> first | rfl | cases h

namespace Link

/-- The tags of the transfers are in order, and the link knows how far they are. -/
def InOrder (c : Connection (σ × List BusEvent)) : Prop := Tagged c.link.tags c.device.2

theorem StepFor.inOrder {wants : Request → Prop} {c c' : Connection (σ × List BusEvent)}
    (hstep : StepFor (bus.recorded.device handle) wants c c') (h : InOrder c) : InOrder c' := by
  cases hstep with
  | forget => exact h
  | note hn =>
    cases hn with
    | call hplain => exact tagged_perform (sent?_eq_none_of_isPlain hplain) h
    | transfer ht => exact h.transfer ht.bears fun sent => rfl
    | statusByte => exact tagged_perform (fun _ => rfl) h
    | remote => exact tagged_perform (fun _ => rfl) h
    | locked => exact tagged_perform (fun _ => rfl) h

/-- What an operation does leaves the tags in order. -/
theorem Moves.inOrder {c c' : Connection (σ × List BusEvent)}
    (hm : Moves (bus.recorded.device handle) c c') (h : InOrder c) : InOrder c' := by
  induction hm with
  | refl => exact h
  | tail _ hstep ih => exact hstep.inOrder ih

/-! ## Opening and handing back -/

theorem keepsTagged_call {call : Call} (hc : ∀ answer, (Event.mk call answer).sent? = none) :
    Respects (Preserves fun s => Tagged tags s.2) ((bus.recorded.device handle).call call) :=
  fun _ => tagged_perform hc

theorem keepsTagged_claim (interface : Interface) (detached : Bool) :
    Respects (Preserves fun s => Tagged tags s.2)
      (claim (bus.recorded.device handle) interface detached) :=
  respects_claim (keepsTagged_call fun _ => rfl) (keepsTagged_call fun _ => rfl) detached

/-- Handing back makes no transfer out of order. -/
theorem allNumbered_handBack (bus : Bus σ) (handle : Nat) {c : Connection (σ × List BusEvent)}
    (h : InOrder c) :
    AllNumbered (handBack (bus.recorded.device handle) c).2.device.2 := by
  obtain ⟨c', hm, he⟩ := exists_moves_of_handBack (bus.recorded.device handle) c
  have hreleased : Tagged c'.link.tags ((bus.recorded.device handle).perform
      (.release c.link.interface) c'.device).2.2 := tagged_perform (fun _ => rfl) (hm.inOrder h)
  rw [he]
  dsimp only
  split
  · exact (tagged_perform (fun _ => rfl) hreleased).allNumbered
  · exact hreleased.allNumbered

/-- A link that is settled knows how far the tags are. -/
theorem ensures_settle_inOrder (link : Link) (usb488 lockout : Bool) :
    Ensures (fun s => Tagged link.tags s.2)
      (settle (bus.recorded.device handle) link usb488 lockout)
      (fun link s => Tagged link.tags s.2) (fun _ s => AllNumbered s.2) := by
  intro s h
  have hnegotiate : InOrder (negotiate (bus.recorded.device handle) usb488 lockout ⟨link, s⟩).2 :=
    respects_negotiate (r := Preserves InOrder) (fun _ _ => Moves.inOrder) (fun _ _ _ => id) usb488
      lockout ⟨link, s⟩ h
  rw [settle_apply]
  generalize negotiate _ usb488 lockout ⟨link, s⟩ = negotiated at *
  rcases negotiated with ⟨e | _, c⟩
  · exact allNumbered_handBack bus handle hnegotiate
  · exact hnegotiate

theorem ensures_establish_inOrder (bus : Bus σ) (handle : Nat) (info : DeviceInfo)
    (settings : Settings) :
    Ensures (fun s => Tagged {} s.2)
      (establish (bus.recorded.device handle) info settings)
      (fun link s => Tagged link.tags s.2) (fun _ s => AllNumbered s.2) := by
  -- Until the interface is claimed there are no transfers.
  have hkeeps {α : Type} {x : Action (σ × List BusEvent) α}
      (hx : Respects (Preserves fun s => Tagged {} s.2) x) :
      Ensures (fun s => Tagged {} s.2) x (fun _ s => Tagged {} s.2) (fun _ s => AllNumbered s.2) :=
    (hx.ensures fun _ _ => id).mono (fun _ _ => id) fun _ _ => Tagged.allNumbered
  unfold establish
  refine Ensures.bind (hkeeps (respects_chooseConfiguration (fun _ => ?_) _)) fun _ => ?_
  · exact keepsTagged_call fun _ => rfl
  refine Ensures.bind (hkeeps (respects_ofExcept _)) fun interface => ?_
  refine Ensures.bind (hkeeps (respects_ofExcept _)) fun endpoints => ?_
  refine Ensures.bind (hkeeps (keepsTagged_call fun _ => rfl)) fun detached => ?_
  refine Ensures.bind (hkeeps (keepsTagged_claim interface detached)) fun _ => ?_
  exact ensures_settle_inOrder (fresh info settings interface endpoints detached) _ _

end Link

end

/-! ## Sessions -/

namespace Session

/-- Finding a device on the bus makes no transfer. -/
theorem allNumbered_resolve (bus : Bus σ) (resource : Resource) :
    Respects (Preserves fun s => AllNumbered s.2) (resolve bus.recorded resource) :=
  respects_resolve (fun s h => h.concat (h s.2 (List.prefix_refl _))) resource

/-- Whatever device is opened, its link has made no transfer yet that it does not know of. -/
theorem ensures_openLink_inOrder (bus : Bus σ) (info : DeviceInfo) (settings : Settings) :
    Ensures (fun s => AllNumbered s.2) (openLink bus.recorded info settings)
      (fun opened s => Tagged opened.link.tags s.2) (fun _ s => AllNumbered s.2) := by
  refine ensures_openLink_of (fun s h => ?_) fun handle =>
    (Link.ensures_establish_inOrder bus handle info settings).mono (fun _ _ => id)
      fun _ _ h => h.concat (h _ (List.prefix_refl _))
  have hopening : Tagged {} (bus.recorded.openDevice info s).2.2 := Tagged.opening h info _
  generalize bus.recorded.openDevice info s = found at *
  rcases found with ⟨e | handle, t⟩
  · exact hopening.allNumbered
  · exact hopening

/-- The transfers are in order, and the link of an open session knows how far they are. -/
def InOrder (b : Bench (σ × List BusEvent)) : Prop :=
  match b.session.opened with
  | none => AllNumbered b.bus.2
  | some opened => Link.InOrder ⟨opened.link, b.bus⟩

theorem lasts_inOrder (bus : Bus σ) (settings : Settings) :
    Lasts bus.recorded settings (fun s => AllNumbered s.2) fun opened s =>
      Tagged opened.link.tags s.2 where
  resolve := allNumbered_resolve bus
  openLink info _ := ensures_openLink_inOrder bus info _
  setTimeout h _ := h
  operate h hm := hm.inOrder h
  close {opened s} h := by
    have hback := @Link.allNumbered_handBack σ bus opened.handle ⟨opened.link, s⟩ h
    exact hback.concat (hback _ (List.prefix_refl _))

theorem inOrder_run (operations : List Operation) {b : Bench (σ × List BusEvent)}
    (h : InOrder b) : InOrder (run bus.recorded operations b).2 :=
  ((lasts_inOrder bus b.session.settings).during_run operations
    ⟨⟨b.session.settings.timeoutMs, rfl⟩, h⟩).holds

/-- What is said of the transfers in a log and of the tag that a link shows. -/
structure TagOrder (tag? : Option UInt8) (log : List BusEvent) : Prop where
  /-- From every opening on, the transfers bear 1, 2, …, 255, 1, … in this order. -/
  numbered : ∀ past, past <+: log → Numbered (sentSinceOpening past)
  /-- Of 255 transfers in a row no two bear the same tag. -/
  distinct : ∀ past, past <+: log → ∀ i j transfer transfer', i < j → j < i + 255 →
    (sentSinceOpening past)[i]? = some transfer → (sentSinceOpening past)[j]? = some transfer' →
      ∀ tag, Bears tag transfer → ¬ Bears tag transfer'
  /-- The tag shown is that of the latest transfer, and 0 before the first. -/
  current : ∀ tag ∈ tag?,
    match (sentSinceOpening log).getLast? with
    | none => tag = 0
    | some transfer => Bears tag transfer

theorem tagOrder_of_allNumbered {tag? : Option UInt8} {log : List BusEvent} (h : AllNumbered log)
    (hcurrent : ∀ tag ∈ tag?,
      match (sentSinceOpening log).getLast? with
      | none => tag = 0
      | some transfer => Bears tag transfer) : TagOrder tag? log where
  numbered := h
  distinct past hpast _ _ _ _ hlt hnear hi hj _ := (h past hpast).not_bears hlt hnear hi hj
  current := hcurrent

theorem tagOrder_of_tagged {tags : TagCounter} {log : List BusEvent} (h : Tagged tags log) :
    TagOrder (some tags.current) log := by
  refine tagOrder_of_allNumbered h.allNumbered fun tag ht => ?_
  obtain rfl := Option.some.inj ht
  exact h.current

/-- After any operations, on a bus of any behaviour: the bulk OUT transfers since an opening have
borne the tags 1, 2, …, 255, 1, … in this order, and the session shows the one of the latest. This is
so as well after any number of envelopes of a message that is being read, even one without end. -/
theorem tagOrder_run (bus : Bus σ) (resource : Resource) (settings : Settings) (start : σ)
    (operations : List Operation) :
    let b := (run bus.recorded operations ⟨{ resource, settings }, (start, [])⟩).2
    TagOrder b.session.currentTag? b.bus.2 ∧
      ∀ opened, b.session.opened = some opened → ∀ n,
        let c := (fun c => (Link.readEnvelope (bus.recorded.device opened.handle) c).2)^[n]
          ⟨opened.link, b.bus⟩
        TagOrder (some c.link.tags.current) c.device.2 := by
  intro b
  have hstart : InOrder ⟨{ resource, settings }, (start, [])⟩ := by
    intro past hpast
    rw [List.prefix_nil.1 hpast]
    exact numbered_nil
  have horder : InOrder b := inOrder_run operations hstart
  constructor
  · unfold InOrder at horder
    split at horder
    · next ho =>
      refine tagOrder_of_allNumbered horder fun tag ht => ?_
      simp [currentTag?, link?, ho] at ht
    · next opened ho =>
      have hcurrent : b.session.currentTag? = some opened.link.tags.current := by
        simp [currentTag?, link?, ho]
      rw [hcurrent]
      exact tagOrder_of_tagged horder
  · intro opened ho n c
    have hopened : Link.InOrder ⟨opened.link, b.bus⟩ := by simpa only [InOrder, ho] using horder
    suffices hc : Link.InOrder c from tagOrder_of_tagged hc
    -- Each envelope is read by moves, whatever comes of it.
    induction n with
    | zero => exact hopened
    | succ n ih =>
      dsimp only [c]
      rw [Function.iterate_succ_apply']
      exact (Link.respects_moves (fun _ => Link.moves_readEnvelope) _).inOrder ih

/-- A message in three pieces and a trigger, after a first opening. -/
def writing : Bench (ScriptedBus × List BusEvent) :=
  let info : DeviceInfo := ⟨0x1334, 1, none, "mock", 1, []⟩
  (run ScriptedBus.behaviour.recorded
    [.openUp, .write "*IDN?", .close, .openUp, .writeRaw [0, 1, 2, 3, 4, 5, 6, 7, 8, 9], .trigger]
    ⟨{ resource := .attached info, settings := { maxTransferSize := 4 } },
      ({ devices := [(info, .plain)] }, [])⟩).2

/-- The tags start anew at the second opening, and have come to 4. -/
theorem tagOrder_run_writing :
    (sentSinceOpening writing.bus.2).length = 4 ∧ writing.session.currentTag? = some 4 ∧
      TagOrder (some 4) writing.bus.2 ∧
      ∃ opened, writing.session.opened = some opened ∧
        let c := (fun c => (Link.readEnvelope (ScriptedBus.behaviour.recorded.device opened.handle)
          c).2)^[2] ⟨opened.link, writing.bus⟩
        TagOrder (some c.link.tags.current) c.device.2 := by
  have hlength : (sentSinceOpening writing.bus.2).length = 4 := by decide +kernel
  have hcurrent : writing.session.currentTag? = some 4 := by decide +kernel
  have hopen : writing.session.opened.isSome := by decide +kernel
  obtain ⟨opened, ho⟩ := Option.isSome_iff_exists.1 hopen
  have h := tagOrder_run ScriptedBus.behaviour
    (.attached ⟨0x1334, 1, none, "mock", 1, []⟩) { maxTransferSize := 4 }
    { devices := [(⟨0x1334, 1, none, "mock", 1, []⟩, .plain)] }
    [.openUp, .write "*IDN?", .close, .openUp, .writeRaw [0, 1, 2, 3, 4, 5, 6, 7, 8, 9], .trigger]
  rw [show (run _ _ _).2 = writing from rfl] at h
  obtain ⟨horder, hreading⟩ := h
  rw [hcurrent] at horder
  exact ⟨hlength, hcurrent, horder, opened, ho, hreading opened ho 2⟩

end Session

end Benchtop
