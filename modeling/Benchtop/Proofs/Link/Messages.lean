import Benchtop.Link.Control
import Benchtop.Proofs.Link.Transfer
import Benchtop.Proofs.Wire.Tag

/-!
# What holds through a message

Writing and reading a message and triggering are made of three parts: a tag is drawn, a transfer that
bears it is sent, and transfers are received in answer to it. A condition that each of them conveys, or
leaves for the condition of an operation that has failed (`Conveys`), is conveyed by the operations
(`Conveys.writeMessage`, `Conveys.readMessage`, `Conveys.trigger`). Reading sends nothing but requests for
data, so a condition that holds of it may also speak of requests and answers (`Fetches`). All other
failures are verdicts on what was received (`Failure.isVerdict`), but for a message without end.
-/

namespace Benchtop

open Usb Wire

variable {σ : Type} {dev : Device σ}

/-- The failure is found by the driver: it is neither one of the bus nor a message without end. -/
def Failure.isVerdict : Failure → Bool
  | .bus _ => false
  | .oversupplied => false
  | _ => true

namespace Link

/-- Between envelopes there is `idle`, `sent tag` after the request `tag` for data, and `asked tag` once it
has been answered. An action that fails comes to `ends`. -/
structure Fetches (dev : Device σ) (idle : Connection σ → Prop) (sent asked : UInt8 → Connection σ → Prop)
    (ends : Failure → Connection σ → Prop) : Prop where
  nextTag : Ensures idle nextTag (fun _ => idle) ends
  request : ∀ tag size termChar, Ensures idle (send dev tag (Envelope.request tag size termChar).bytes)
    (fun _ => sent tag) ends
  answer : ∀ tag, Ensures (sent tag) (receive dev tag) (fun _ => asked tag) ends
  receive : ∀ tag, Ensures (asked tag) (receive dev tag) (fun _ => asked tag) ends
  idle_of_asked : ∀ {tag c}, asked tag c → idle c
  verdict : ∀ {failure c}, failure.isVerdict → idle c → ends failure c
  endless : ∀ {c}, idle c → c.readEnvelopes? dev [] = none → ends .oversupplied c

/-- Between messages there is `idle`, and `asked tag` after the transfer `tag`. An action that fails comes
to `ends`. -/
structure Conveys (dev : Device σ) (idle : Connection σ → Prop) (asked : UInt8 → Connection σ → Prop)
    (ends : Failure → Connection σ → Prop) : Prop where
  nextTag : Ensures idle nextTag (fun _ => idle) ends
  send : ∀ {tag bytes}, Bears tag bytes →
    Ensures idle (send dev tag bytes) (fun _ => asked tag) ends
  receive : ∀ tag, Ensures (asked tag) (receive dev tag) (fun _ => asked tag) ends
  idle_of_asked : ∀ {tag c}, asked tag c → idle c
  verdict : ∀ {failure c}, failure.isVerdict → idle c → ends failure c
  endless : ∀ {c}, idle c → c.readEnvelopes? dev [] = none → ends .oversupplied c

variable {idle : Connection σ → Prop} {sent asked : UInt8 → Connection σ → Prop}
  {ends : Failure → Connection σ → Prop}

/-! ## Reading -/

namespace Fetches

theorem readAll (h : Fetches dev idle sent asked ends) (tag : UInt8) (need : Nat)
    (data : List UInt8) :
    Ensures (asked tag) (Link.readAll dev tag need data) (fun _ => asked tag) ends := by
  fun_induction Link.readAll dev tag need data with
  | case1 => exact ensures_pure fun _ => id
  | case2 data hlt ih =>
    refine (h.receive tag).bind fun more => ?_
    split
    · exact ensures_throw fun _ hc => h.verdict rfl (h.idle_of_asked hc)
    · next hmore => exact ih more hmore

theorem requestData (h : Fetches dev idle sent asked ends) :
    Ensures idle (Link.requestData dev) (fun first => asked first.tag) ends := by
  refine h.nextTag.bind fun tag => ensures_get.bind fun c => ?_
  refine (h.request tag _ _).bind fun _ => (h.answer tag).bind fun bytes => ?_
  split
  · exact ensures_throw fun _ hc => h.verdict rfl (h.idle_of_asked hc)
  · split
    · exact ensures_throw_bind fun _ hc => h.verdict rfl (h.idle_of_asked hc)
    · exact ensures_pure fun _ => id

theorem readEnvelope (h : Fetches dev idle sent asked ends) :
    Ensures idle (Link.readEnvelope dev) (fun _ => idle) ends :=
  h.requestData.bind fun first => (h.readAll first.tag _ _).bind fun _ =>
    ensures_pure fun _ => h.idle_of_asked

/-- A message that comes to an end. -/
theorem of_readEnvelopes? (h : Fetches dev idle sent asked ends) (message : List UInt8)
    (c : Connection σ) (hc : idle c) :
    ∀ outcome, c.readEnvelopes? dev message = some outcome →
      match outcome with
      | (.ok _, c') => idle c'
      | (.error failure, c') => ends failure c' := by
  intro outcome hread
  refine Connection.readEnvelopes?.partial_correctness dev (fun _ c outcome => idle c →
    match outcome with
    | (.ok _, c') => idle c'
    | (.error failure, c') => ends failure c') ?_ message c outcome hread hc
  intro rest ih message c outcome hread hc
  have henvelope := h.readEnvelope c hc
  split at hread
  · next hr =>
    obtain rfl := Option.some.inj hread
    rwa [hr] at henvelope
  · next hr =>
    obtain rfl := Option.some.inj hread
    rwa [hr] at henvelope
  · next hr =>
    rw [hr] at henvelope
    exact ih _ _ _ hread henvelope

theorem readBlock (h : Fetches dev idle sent asked ends) (tag : UInt8) (data : List UInt8)
    (size : Nat) : Ensures (asked tag) (Link.readBlock dev tag data size) (fun _ => idle) ends := by
  unfold Link.readBlock
  split
  · exact (h.readAll tag _ data).bind fun _ => ensures_pure fun _ => h.idle_of_asked
  · exact (h.readAll tag _ data).bind fun _ => ensures_pure fun _ => h.idle_of_asked

theorem readBlockMessage (h : Fetches dev idle sent asked ends) :
    Ensures idle (Link.readBlockMessage dev) (fun _ => idle) ends := by
  refine h.requestData.bind fun first => ?_
  dsimp only
  split
  · exact (h.receive first.tag).bind fun data => h.readBlock _ _ _
  · exact h.readBlock _ _ _

theorem readMessage (h : Fetches dev idle sent asked ends) :
    Ensures idle (Link.readMessage dev) (fun _ => idle) ends := by
  intro c hc
  by_cases hblocks : c.link.profile.readsBlocks
  · rw [Link.readMessage, if_pos hblocks]
    exact h.readBlockMessage c hc
  · rw [Link.readMessage, if_neg hblocks]
    cases hread : c.readEnvelopes? dev [] with
    | none => exact h.endless hc hread
    | some outcome =>
      have hends := h.of_readEnvelopes? [] c hc outcome hread
      rcases outcome with ⟨failure | message, c'⟩ <;> exact hends

end Fetches

/-! ## Writing and reading -/

namespace Conveys

theorem sendNext (h : Conveys dev idle asked ends) {bytes : UInt8 → List UInt8}
    (hb : ∀ tag, Bears tag (bytes tag)) :
    Ensures idle (Link.nextTag >>= fun tag => Link.send dev tag (bytes tag)) (fun _ => idle) ends :=
  h.nextTag.bind fun tag => (h.send (hb tag)).mono (fun _ _ => h.idle_of_asked) fun _ _ => id

theorem sendPiece (h : Conveys dev idle asked ends) (piece : List UInt8) (isLast : Bool) :
    Ensures idle (Link.sendPiece dev piece isLast) (fun _ => idle) ends :=
  h.sendNext fun _ => Envelope.bears_frame _ _

theorem sendPieces (h : Conveys dev idle asked ends) : ∀ ps : List (List UInt8),
    Ensures idle (Link.sendPieces dev ps) (fun _ => idle) ends
  | [] => ensures_pure fun _ => id
  | [last] => h.sendPiece last true
  | piece :: next :: rest => (h.sendPiece piece false).bind fun _ => h.sendPieces (next :: rest)

theorem writeMessage (h : Conveys dev idle asked ends) (data : List UInt8) :
    Ensures idle (Link.writeMessage dev data) (fun _ => idle) ends :=
  ensures_get.bind fun _ => h.sendPieces _

/-- A request for data is a transfer like any other. -/
theorem fetches (h : Conveys dev idle asked ends) : Fetches dev idle asked asked ends where
  nextTag := h.nextTag
  request _ _ _ := h.send (Envelope.bears_bytes _)
  answer := h.receive
  receive := h.receive
  idle_of_asked := h.idle_of_asked
  verdict := h.verdict
  endless := h.endless

theorem readMessage (h : Conveys dev idle asked ends) :
    Ensures idle (Link.readMessage dev) (fun _ => idle) ends :=
  h.fetches.readMessage

theorem trigger (h : Conveys dev idle asked ends) :
    Ensures idle (Link.trigger dev) (fun _ => idle) ends := by
  refine ensures_get.bind fun c => ?_
  dsimp only
  split
  · exact h.sendNext fun _ => Envelope.bears_bytes _
  · exact h.writeMessage _

end Conveys

end Link

end Benchtop
