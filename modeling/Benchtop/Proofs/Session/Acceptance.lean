import Benchtop.Proofs.Link.Acceptance
import Benchtop.Proofs.Session.TagOrder

/-!
# Nothing foreign is read as a response

A message is read by envelopes that answer the requests of its reading, one by one (`Link.Reading`),
and the transfers of a session are tagged in order (`Tagged`). So an envelope that has become part of a
message bears the tag of the request just before it, and of the 255 transfers up to that request no
other bears this tag: what is left over from one of them is not taken for the answer (`AnswersOnly`).

Main statement: this holds of every message that is read in a run of a session, whatever its operation
has done before; and of every link, whether it belongs to a session or not, all other outcomes of
reading are failures that say what was wrong (`answersOnly_of_readMessage`).
-/

namespace Benchtop

open Usb Wire

variable {σ : Type} {bus : Bus σ}

/-- The envelope answers the transfer at this place, a request for data, and no other of the 255 up to
there. -/
structure AnswersOnly (link : Link) (sent : List (List UInt8)) (place : Nat) (isLast : Bool)
    (d : Link.Delivery) : Prop where
  request : sent[place]? = some (link.requestBytes (tagAt place))
  answers : d.Answers (tagAt place) isLast
  head : d.header.head? = some MessageKind.dataIn.id
  bears : Bears (tagAt place) d.header
  not_bears : ∀ earlier transfer tag, earlier < place → place < earlier + 255 →
    sent[earlier]? = some transfer → Bears tag transfer → ¬ Bears tag d.header

namespace Link

/-- Each of the deliveries that answer a message answers its request. -/
theorem Answer.getElem {tags : TagCounter} {ds : List Delivery} (h : Answer tags ds) (i : Nat)
    (hi : i < ds.length) :
    ds[i].Answers (TagCounter.next^[i + 1] tags).current (decide (i + 1 = ds.length)) := by
  induction ds generalizing tags i with
  | nil => cases hi
  | cons d ds ih =>
    cases i with
    | zero =>
      have hlast : ds.isEmpty = decide (0 + 1 = (d :: ds).length) := by cases ds <;> rfl
      rw [← hlast]
      exact h.1
    | succ i => simpa using ih h.2 i (Nat.lt_of_succ_lt_succ hi)

/-- An envelope that has become part of a message answers its request and nothing that was sent
shortly before. -/
theorem answersOnly_of_answer {log : List BusEvent} {handle : Nat} {link : Link} {ds : List Delivery}
    (ha : Answer link.tags ds) (hbefore : Tagged link.tags log)
    (hafter : AllNumbered (log ++ (exchange link link.tags ds).map (.call handle))) (i : Nat)
    (hi : i < ds.length) :
    AnswersOnly link
      (sentSinceOpening (log ++ (exchange link link.tags ds).map (.call handle)))
      ((sentSinceOpening log).length + i) (decide (i + 1 = ds.length)) ds[i] := by
  have htag : (TagCounter.next^[i + 1] link.tags).current =
      tagAt ((sentSinceOpening log).length + i) := by
    rw [hbefore.tags_eq, ← Function.iterate_add_apply, ← TagCounter.current_iterate_next]
    congr 2
    omega
  have hanswers := ha.getElem i hi
  rw [htag] at hanswers
  obtain ⟨char, hparse⟩ := hanswers.parse_header
  have hbears := Envelope.bears_of_parse hparse
  refine ⟨?_, hanswers, Envelope.head?_of_parse hparse, hbears, ?_⟩
  · rw [sentSinceOpening_append_calls, filterMap_sent?_exchange,
      List.getElem?_append_right (Nat.le_add_right _ _), Nat.add_sub_cancel_left, List.getElem?_map,
      List.getElem?_range hi, Option.map_some, htag]
  · intro earlier transfer tag hlt hnear hsent ht ht'
    obtain ⟨hlength, rfl⟩ := List.getElem?_eq_some_iff.1 hsent
    have hnumbered := hafter _ (List.prefix_refl _) earlier hlength
    exact tagAt_ne hlt hnear ((hnumbered.unique ht).trans (ht'.unique hbears))

end Link

namespace Session

/-- Whatever a device sends to any link that is not of the block profile: a message is read by envelopes
that answer its requests, or a request is refused, or the envelopes have no end. In a run of a session,
on a bus of any behaviour, the envelopes of a message that is read answer no other of the 255 latest
transfers than their request. -/
theorem answersOnly_of_readMessage (bus : Bus σ) :
    (∀ (dev : Device σ) (c : Connection σ), c.link.profile ≠ .ieeeBlock →
      Link.Reading dev c (Link.readMessage dev c) ∨
        Link.Endless dev c ∧ Link.readMessage dev c = (.error .oversupplied, c)) ∧
    ∀ resource settings start operations,
      let b := (run bus.recorded operations ⟨{ resource, settings }, (start, [])⟩).2
      ∀ opened, b.session.opened = some opened → opened.link.profile ≠ .ieeeBlock →
        let dev := bus.recorded.device opened.handle
        ∀ c, Link.Moves dev ⟨opened.link, b.bus⟩ c →
          ∀ message c', Link.readMessage dev c = (.ok message, c') →
            ∃ ds, ds ≠ [] ∧ message = ds.flatMap (·.payload) ∧
              c'.device.2 = c.device.2 ++
                (Link.exchange c.link c.link.tags ds).map (.call opened.handle) ∧
              ∀ i (hi : i < ds.length),
                AnswersOnly c.link (sentSinceOpening c'.device.2)
                  ((sentSinceOpening c.device.2).length + i) (decide (i + 1 = ds.length)) ds[i] := by
  refine ⟨fun dev c hp => Link.reading_readMessage dev hp, ?_⟩
  intro resource settings start operations b opened ho hprofile dev c hmoves message c' hread
  have hstart : InOrder ⟨{ resource, settings }, (start, [])⟩ := by
    intro past hpast
    rw [List.prefix_nil.1 hpast]
    exact numbered_nil
  have horder : InOrder b := inOrder_run operations hstart
  have hopened : Link.InOrder ⟨opened.link, b.bus⟩ := by simpa only [InOrder, ho] using horder
  have hbefore : Link.InOrder c := hmoves.inOrder hopened
  have hp : c.link.profile ≠ .ieeeBlock := by
    rw [hmoves.sameOpening]
    exact hprofile
  have hreading := Link.reading_readMessage dev hp
  have hafter : Link.InOrder (Link.readMessage dev c).2 :=
    (Link.respects_moves (fun _ => Link.moves_readMessage) c).inOrder hbefore
  rw [hread] at hreading hafter
  rcases hreading with hreading | ⟨-, hendless⟩
  · cases hreading with
    | @accepted ds t hne ha ht =>
      have hlog := ht.busLog_eq
      refine ⟨ds, hne, rfl, hlog, fun i hi => ?_⟩
      rw [hlog]
      exact Link.answersOnly_of_answer ha hbefore (hlog ▸ hafter.allNumbered) i hi
  · cases hendless

/-- An instrument that answers the request 1 late, after a transfer that is no answer at all, and the
requests 3 and 4 in time. -/
def lateInstrument : ScriptedDevice :=
  { ScriptedDevice.plain with
    bulkInQueue :=
      [.raw [0], .raw ((Envelope.mk .dataIn 1 2 true none).frame [7, 7]),
        .raw ((Envelope.mk .dataIn 3 2 false none).frame [1, 2]),
        .raw ((Envelope.mk .dataIn 4 1 true none).frame [3])] }

/-- A session with it. -/
def openedLate : Bench (ScriptedBus × List BusEvent) :=
  let info : DeviceInfo := ⟨0x1334, 1, none, "mock", 1, []⟩
  (run ScriptedBus.behaviour.recorded [.openUp]
    ⟨{ resource := .attached info, settings := {} },
      ({ devices := [(info, lateInstrument)] }, [])⟩).2

/-- Its bus after the requests 1 and 2. -/
def lateBus (calls : List Call) : ScriptedBus where
  devices :=
    [(⟨0x1334, 1, none, "mock", 1, []⟩,
      { lateInstrument with
        claimed := some 0
        bulkInQueue := lateInstrument.bulkInQueue.drop 2
        requestTag := 2
        log := calls })]

/-- The late answer is not taken for the answer to the request 2. Reading again gives the answer to the
requests 3 and 4. -/
theorem answersOnly_of_readMessage_openedLate :
    ∃ opened, openedLate.session.opened = some opened ∧ opened.link.profile ≠ .ieeeBlock ∧
      let dev := ScriptedBus.behaviour.recorded.device opened.handle
      let first := (Link.requestData dev ⟨opened.link, openedLate.bus⟩).2
      ∃ c, Link.requestData dev first = (.error (.tagMismatch 2 1), c) ∧
        ∃ c', Link.readMessage dev c = (.ok [1, 2, 3], c') ∧
          ∃ ds, ds ≠ [] ∧ [1, 2, 3] = ds.flatMap (·.payload) ∧
            c'.device.2 = c.device.2 ++
              (Link.exchange c.link c.link.tags ds).map (.call opened.handle) ∧
            ∀ i (hi : i < ds.length),
              AnswersOnly c.link (sentSinceOpening c'.device.2)
                ((sentSinceOpening c.device.2).length + i) (decide (i + 1 = ds.length)) ds[i] := by
  let opened := openedLate.session.opened.get rfl
  let dev := ScriptedBus.behaviour.recorded.device opened.handle
  let first := (Link.requestData dev ⟨opened.link, openedLate.bus⟩).2
  let link : Link := { opened.link with tags := ⟨2⟩ }
  let ds : List Link.Delivery :=
    [⟨12, (Envelope.mk .dataIn 3 2 false none).bytes, [1, 2], [1, 2, 0, 0], []⟩,
      ⟨12, (Envelope.mk .dataIn 4 1 true none).bytes, [3], [3, 0, 0, 0], []⟩]
  have hmoves : Link.Moves dev ⟨opened.link, openedLate.bus⟩ (Link.requestData dev first).2 :=
    (Link.respects_moves (fun _ => Link.moves_requestData) _).trans
      (Link.respects_moves (fun _ => Link.moves_requestData) first)
  obtain ⟨calls, log, hlate⟩ : ∃ calls log, Link.requestData dev first =
      (.error (.tagMismatch 2 1), ⟨link, (lateBus calls, log)⟩) := ⟨_, _, rfl⟩
  rw [hlate] at hmoves
  have ha : Link.Answer link.tags ds :=
    ⟨⟨rfl, ⟨none, rfl⟩, by decide, by decide, by decide, by decide⟩,
      ⟨rfl, ⟨none, rfl⟩, by decide, by decide, by decide, by decide⟩, trivial⟩
  obtain ⟨t, ht⟩ : ∃ t, dev.Trace (lateBus calls, log) (Link.exchange link link.tags ds) t :=
    ⟨_, ⟨_, rfl, _, rfl, _, rfl, _, rfl, rfl⟩⟩
  have hplain : ¬ link.profile.readsBlocks := by decide
  have hread : Link.readMessage dev ⟨link, (lateBus calls, log)⟩ =
      (.ok [1, 2, 3], ⟨{ link with tags := TagCounter.next^[ds.length] link.tags }, t⟩) := by
    rw [Link.readMessage, if_neg hplain, Link.readEnvelopes?_of_trace (List.cons_ne_nil _ _) ha ht]
    rfl
  refine ⟨opened, rfl, by decide, _, hlate, _, hread, ?_⟩
  exact (answersOnly_of_readMessage ScriptedBus.behaviour).2 _ _ _ _ opened rfl (by decide) _ hmoves _ _
    hread

end Session

end Benchtop
