import Benchtop.Proofs.Link.Reading
import Benchtop.Proofs.Link.Writing
import Benchtop.Proofs.Session.Run

/-!
# A dialogue with an instrument

What a message based instrument does, apart from what it says: it takes a message in any number of
envelopes, holds a reply to it, and brings the reply in pieces of its own choice, one for every
request (`Complies`). Which reply it gives to which message is a function of the message alone.

Main statement: with any such instrument, an open session that asks any commands one after the other
gets the reply to each, and at the end the instrument listens again (`askRaw_dialogue`). Neither the
size of the transfers nor the pieces that the instrument chooses have a part in what is returned.
There are such instruments for every reply function (`Instrument.complies_device`).
-/

namespace Benchtop

open Usb Wire

/-! ## Instruments -/

/-- Where an instrument stands. -/
inductive Dialogue where
  /-- It has this much of a message. -/
  | listening (message : List UInt8)
  /-- It holds this much of a reply. -/
  | holding (reply : List UInt8)
  /-- It is about to bring this transfer, and holds this much of a reply after it. -/
  | bringing (transfer reply : List UInt8)
  deriving DecidableEq, Repr

/-- Where an instrument stands that has this much of a reply left: after the last of it, it listens
for the next message. -/
def Dialogue.after (rest : List UInt8) : Dialogue :=
  if rest = [] then .listening [] else .holding rest

/-- A padded transfer of data of the device. -/
structure IsDataIn (transfer : List UInt8) (tag : UInt8) (chunk : List UInt8) (isLast : Bool) :
    Prop where
  parse_eq : ∃ char, Envelope.parse transfer .dataIn =
    .ok ⟨.dataIn, tag, .ofNat chunk.length, isLast, char⟩
  chunk_prefix : chunk <+: transfer.drop headerSize
  length_eq : transfer.length =
    headerSize + chunk.length + (Envelope.padding (headerSize + chunk.length)).length

variable {σ : Type}

/-- A device is a message based instrument on these endpoints, which replies to a message by `f`.
`stands` tells where it stands. -/
structure Complies (dev : Device σ) (bulkOut bulkIn : UInt8) (f : List UInt8 → List UInt8)
    (stands : σ → Dialogue → Prop) : Prop where
  /-- It adds the payload of an envelope to the message, and when that was the last, it replies. -/
  takes : ∀ s message transfer e timeout, stands s (.listening message) →
    Envelope.parse transfer .dataOut = .ok e →
      ∃ n t, dev.perform (.bulkOut bulkOut transfer timeout) s = (.ok n, t) ∧
        let message := message ++ (transfer.drop headerSize).take e.size.toNat
        stands t (if e.endOfMessage then .holding (f message) else .listening message)
  /-- It answers a request by a chunk of the reply, as large as it likes within what is asked for,
  and empty only if the reply is. -/
  answers : ∀ s reply transfer e timeout, stands s (.holding reply) →
    Envelope.parse transfer .requestIn = .ok e → 0 < e.size.toNat →
      ∃ n t chunk rest answer,
        dev.perform (.bulkOut bulkOut transfer timeout) s = (.ok n, t) ∧
          reply = chunk ++ rest ∧ chunk.length ≤ e.size.toNat ∧ (chunk = [] → reply = []) ∧
          IsDataIn answer e.tag chunk rest.isEmpty ∧ stands t (.bringing answer rest)
  /-- It brings the chunk if there is room for the transfer. -/
  brings : ∀ s transfer rest maxLength timeout, stands s (.bringing transfer rest) →
    transfer.length ≤ maxLength →
      ∃ t, dev.perform (.bulkIn bulkIn maxLength timeout) s = (.ok transfer, t) ∧
        stands t (.after rest)

/-! ## An instrument for every reply -/

namespace Instrument

/-- The answer to a request for at most `most` bytes of `reply`. -/
def answer (size : Nat) (tag : UInt8) (most : Nat) (reply : List UInt8) : Dialogue :=
  let chunk := reply.take (min size most)
  let rest := reply.drop (min size most)
  .bringing ((Envelope.mk .dataIn tag (.ofNat chunk.length) rest.isEmpty none).frame chunk) rest

/-- What an instrument makes of a bulk OUT transfer. -/
def take (f : List UInt8 → List UInt8) (size : Nat) (transfer : List UInt8) : Dialogue → Dialogue
  | .listening message =>
    match Envelope.parse transfer .dataOut with
    | .ok e =>
      let message := message ++ (transfer.drop headerSize).take e.size.toNat
      if e.endOfMessage then .holding (f message) else .listening message
    | .error _ => .listening message
  | .holding reply =>
    match Envelope.parse transfer .requestIn with
    | .ok e => answer size e.tag e.size.toNat reply
    | .error _ => .holding reply
  | .bringing transfer reply => .bringing transfer reply

/-- The instrument that replies by `f`, in chunks of at most `size` bytes. It has no capabilities, and
it lets everything be done to it. -/
def device (f : List UInt8 → List UInt8) (size : Nat) : Device Dialogue where
  configurations _ := [⟨1, [Scripted.instrumentInterface 0 0 false]⟩]
  active _ := some 1
  perform
    | .setConfiguration _, s => (.ok (), s)
    | .detachDriver _, s => (.ok false, s)
    | .attachDriver _, s => (.ok (), s)
    | .claim .., s => (.ok (), s)
    | .release _, s => (.ok (), s)
    | .controlIn .., s => (.ok (Scripted.capabilitiesAnswer 0 0 0 0), s)
    | .bulkOut _ transfer _, s => (.ok transfer.length, take f size transfer s)
    | .bulkIn _ _ _, .bringing transfer reply => (.ok transfer, .after reply)
    | .bulkIn _ _ timeout, s => (.error (.ofTimeout timeout), s)
    | .interruptIn _ _ timeout, s => (.error (.ofTimeout timeout), s)
    | .clearHalt _, s => (.ok (), s)

/-- A bus with one such instrument. -/
def bus (f : List UInt8 → List UInt8) (size : Nat) : Bus Dialogue where
  enumerate s := (.ok [], s)
  openDevice _ s := (.ok 0, s)
  device _ := device f size
  letGo _ s := s

theorem isDataIn_frame (tag : UInt8) (chunk : List UInt8) (isLast : Bool) :
    IsDataIn ((Envelope.mk .dataIn tag (.ofNat chunk.length) isLast none).frame chunk) tag chunk
      isLast where
  parse_eq := ⟨none, Envelope.parse_frame _ chunk⟩
  chunk_prefix := by
    rw [Envelope.drop_frame]
    exact List.prefix_append _ _
  length_eq := Envelope.length_frame _ chunk

/-- The instrument complies, whatever the reply function and the size of its chunks. -/
theorem complies_device (f : List UInt8 → List UInt8) {size : Nat} (hsize : 0 < size)
    (bulkOut bulkIn : UInt8) : Complies (device f size) bulkOut bulkIn f (· = ·) where
  takes s message transfer e timeout hs he := by
    refine ⟨transfer.length, _, rfl, ?_⟩
    simp only [hs, take, he]
  answers s reply transfer e timeout hs he hpos := by
    refine ⟨transfer.length, _, reply.take (min size e.size.toNat),
      reply.drop (min size e.size.toNat), _, rfl, (List.take_append_drop _ _).symm, ?_, fun hc => ?_,
      isDataIn_frame e.tag _ _, ?_⟩
    · exact Nat.le_trans (List.length_take_le _ _) (Nat.min_le_right _ _)
    · exact (List.take_eq_nil_iff.1 hc).resolve_left (by omega)
    · simp only [hs, take, he, answer]
  brings s transfer rest maxLength timeout hs _ := by
    subst hs
    exact ⟨_, rfl, rfl⟩

/-- A session that has been opened on such an instrument, with no room in its settings. -/
def opened (f : List UInt8 → List UInt8) (size : Nat) : Bench Dialogue :=
  (Session.run (bus f size) [.openUp]
    ⟨{ resource := .attached ⟨0x1334, 1, none, "usb", 1, []⟩, settings := { maxTransferSize := 0 } },
      .listening []⟩).2

theorem reachable_opened (f : List UInt8 → List UInt8) (size : Nat) :
    Session.Reachable (bus f size) (opened f size) :=
  ⟨_, _, _, _, rfl⟩

end Instrument

namespace Link

variable {dev : Device σ} {link : Link} {f : List UInt8 → List UInt8}
  {stands : σ → Dialogue → Prop}

/-! ## Writing to an instrument -/

/-- An instrument takes the fragments of a message, and holds the reply. -/
theorem exists_trace_of_listening
    (h : Complies dev link.endpoints.bulkOut link.endpoints.bulkIn f stands) {tags : TagCounter}
    {ps : List (List UInt8)} (hne : ps ≠ []) (hlt : ∀ piece ∈ ps, piece.length < UInt32.size)
    {message : List UInt8} {s : σ} (hs : stands s (.listening message)) :
    ∃ events t, Accepted link ((fragments tags ps).map (·.transfer)) events ∧
      dev.Trace s events t ∧ stands t (.holding (f (message ++ ps.flatten))) := by
  induction ps generalizing tags message s with
  | nil => exact absurd rfl hne
  | cons piece ps ih =>
    have hsize : (UInt32.ofNat piece.length).toNat = piece.length :=
      UInt32.toNat_ofNat_of_lt' (hlt piece List.mem_cons_self)
    obtain ⟨n, u, hu, hstands⟩ := h.takes s message
      (Fragment.ofPiece tags.next.current piece ps.isEmpty).transfer _ link.timing.timeout hs
      (Fragment.parse_transfer rfl)
    rw [Fragment.drop_transfer] at hstands
    simp only [Fragment.ofPiece, hsize, List.take_left] at hstands
    cases ps with
    | nil => exact ⟨[_], u, .cons ⟨n, rfl⟩ .nil, ⟨u, hu, rfl⟩, by simpa using hstands⟩
    | cons piece' ps =>
      obtain ⟨events, t, ha, ht, hstands⟩ := @ih tags.next (List.cons_ne_nil _ _)
        (fun p hp => hlt p (List.mem_cons_of_mem _ hp)) _ _ hstands
      refine ⟨_ :: events, t, .cons ⟨n, rfl⟩ ha, ⟨u, hu, ht⟩, ?_⟩
      rwa [List.append_assoc] at hstands

/-! ## Reading from an instrument -/

/-- A transfer of data of the device is a delivery by itself. -/
theorem answers_of_isDataIn {transfer chunk : List UInt8} {tag : UInt8} {isLast : Bool} (taken : Nat)
    (h : IsDataIn transfer tag chunk isLast) (hlt : chunk.length < UInt32.size) :
    Delivery.Answers
      ⟨taken, transfer.take headerSize, chunk, transfer.drop headerSize, []⟩ tag isLast := by
  obtain ⟨char, hparse⟩ := h.parse_eq
  have hlength := Envelope.headerSize_le_of_parse hparse
  have htake : (transfer.take headerSize).length = headerSize := List.length_take_of_le hlength
  refine ⟨htake, ⟨char, ?_⟩, hlt, ?_, nofun, fun hm => absurd rfl hm⟩
  · rw [← hparse, ← Envelope.parse_append (Nat.le_of_eq htake.symm) (transfer.drop headerSize),
      List.take_append_drop]
  · simpa using h.chunk_prefix

/-- An instrument that holds a reply is read a chunk of it. -/
theorem exists_readEnvelope_of_holding
    (h : Complies dev link.endpoints.bulkOut link.endpoints.bulkIn f stands)
    (hpos : 0 < link.maxTransferSize.toNat) {reply : List UInt8} {s : σ}
    (hs : stands s (.holding reply)) :
    ∃ chunk rest t, reply = chunk ++ rest ∧ (chunk = [] → reply = []) ∧
      readEnvelope dev ⟨link, s⟩ =
        (.ok (chunk, rest.isEmpty), ⟨{ link with tags := link.tags.next }, t⟩) ∧
      stands t (.after rest) := by
  have hrequest : Envelope.parse (requestBytes link link.tags.next.current) .requestIn =
      .ok (.request link.tags.next.current link.maxTransferSize
        (if link.capabilities.termChar then link.termChar else none)) := by
    have := Envelope.parse_bytes_append (.request link.tags.next.current link.maxTransferSize
      (if link.capabilities.termChar then link.termChar else none)) []
    rwa [List.append_nil] at this
  obtain ⟨n, u, chunk, rest, answer, hu, hreply, hle, hempty, hanswer, hbrings⟩ :=
    h.answers s reply _ _ link.timing.timeout hs hrequest hpos
  have hroom : answer.length ≤ link.maxTransferSize.toNat + headerSize + 3 := by
    have := Envelope.length_padding_lt (headerSize + chunk.length)
    have := hanswer.length_eq
    simp only [Envelope.request] at hle
    omega
  obtain ⟨t, ht, hafter⟩ := h.brings u answer rest _ link.timing.timeout hbrings hroom
  have hlt : chunk.length < UInt32.size := Nat.lt_of_le_of_lt hle (UInt32.toNat_lt_size _)
  refine ⟨chunk, rest, t, hreply, hempty, ?_, hafter⟩
  refine readEnvelope_of_trace (answers_of_isDataIn n hanswer hlt) ⟨u, hu, t, ?_, rfl⟩
  rwa [List.take_append_drop]

/-- An instrument that holds a reply is read the reply, and listens. -/
theorem exists_readEnvelopes?_of_holding
    (h : Complies dev link.endpoints.bulkOut link.endpoints.bulkIn f stands)
    (hpos : 0 < link.maxTransferSize.toNat) {reply message : List UInt8} {s : σ}
    (hs : stands s (.holding reply)) :
    ∃ tags t, Connection.readEnvelopes? dev message ⟨link, s⟩ =
        some (.ok (message ++ reply), ⟨{ link with tags }, t⟩) ∧
      stands t (.listening []) := by
  -- Induction on the length of the reply: a chunk is empty only if the reply is.
  induction hn : reply.length using Nat.strongRecOn generalizing link reply message s with
  | _ n ih =>
    obtain ⟨chunk, rest, t, rfl, hempty, hread, hafter⟩ := exists_readEnvelope_of_holding h hpos hs
    rw [Connection.readEnvelopes?, hread]
    cases rest with
    | nil =>
      rw [List.append_nil]
      exact ⟨_, t, rfl, hafter⟩
    | cons byte rest =>
      have hchunk : chunk ≠ [] := fun hc => by simpa [hc] using hempty hc
      have hlt : (byte :: rest).length < n := by
        rw [← hn, List.length_append]
        exact Nat.lt_add_of_pos_left (List.length_pos_iff.2 hchunk)
      obtain ⟨tags, t', hrest, hlisten⟩ := @ih _ hlt { link with tags := link.tags.next }
        h hpos (byte :: rest) (message ++ chunk) t hafter rfl
      refine ⟨tags, t', ?_, hlisten⟩
      rw [← List.append_assoc]
      exact hrest

/-- An instrument that listens can be asked, and listens again. -/
theorem exists_ask_of_listening (hp : link.profile ≠ .ieeeBlock)
    (h : Complies dev link.endpoints.bulkOut link.endpoints.bulkIn f stands)
    (hpos : 0 < link.maxTransferSize.toNat) (command : List UInt8) {s : σ}
    (hs : stands s (.listening [])) :
    ∃ tags u tags' t, writeMessage dev command ⟨link, s⟩ = (.ok (), ⟨{ link with tags }, u⟩) ∧
      readMessage dev ⟨{ link with tags }, u⟩ =
        (.ok (f command), ⟨{ link with tags := tags' }, t⟩) ∧
      stands t (.listening []) := by
  have hsplits : link.profile.splitsMessages := Profile.splitsMessages_iff.2 hp
  have hblocks : ¬ link.profile.readsBlocks := mt Profile.readsBlocks_iff.1 hp
  have hcut := cut_pieces hpos command
  obtain ⟨events, u, haccepted, hu, hholds⟩ := exists_trace_of_listening h hcut.ne_nil
    (fun piece hpiece => Nat.lt_of_le_of_lt (hcut.length_le hpiece) (UInt32.toNat_lt_size _)) hs
  rw [List.nil_append, hcut.flatten_eq] at hholds
  have hwrite := (writeMessage_apply link hsplits command s).trans
    (sendPieces_of_trace haccepted hu)
  generalize TagCounter.next^[_] link.tags = tags at hwrite
  obtain ⟨tags', t, hread, hlistens⟩ := @exists_readEnvelopes?_of_holding _ dev
    { link with tags } f stands h hpos (f command) [] u hholds
  refine ⟨tags, u, tags', t, hwrite, ?_, hlistens⟩
  rw [readMessage, if_neg hblocks, hread]
  rfl

end Link

namespace Session

variable {bus : Bus σ}

/-- The bench after the link has been given these tags and the bus has come to `s`. -/
def retagged (b : Bench σ) (opened : OpenedDevice) (tags : TagCounter) (s : σ) : Bench σ :=
  ⟨{ b.session with opened := some { opened with link := { opened.link with tags } } }, s⟩

/-- Asking one command. -/
theorem exists_askRaw {b : Bench σ} {opened : OpenedDevice} {f : List UInt8 → List UInt8}
    {stands : σ → Dialogue → Prop} (hp : opened.link.profile ≠ .ieeeBlock)
    (h : Complies (bus.device opened.handle) opened.link.endpoints.bulkOut
      opened.link.endpoints.bulkIn f stands)
    (hpos : 0 < opened.link.maxTransferSize.toNat) (command : List UInt8) (tags : TagCounter)
    {s : σ} (hs : stands s (.listening [])) :
    ∃ tags' t, askRaw bus command (retagged b opened tags s) =
        (.ok (f command), retagged b opened tags' t) ∧
      stands t (.listening []) := by
  obtain ⟨tags', u, tags'', t, hwrite, hread, hlistens⟩ := @Link.exists_ask_of_listening _
    (bus.device opened.handle) { opened.link with tags } f stands hp h hpos command s hs
  refine ⟨tags'', t, ?_, hlistens⟩
  have hw : writeRaw bus command (retagged b opened tags s) =
      (.ok (), retagged b opened tags' u) := by
    simp only [writeRaw, onLink, retagged, hwrite]
  have hr : readRaw bus (retagged b opened tags' u) =
      (.ok (f command), retagged b opened tags'' t) := by
    simp only [readRaw, onLink, retagged, hread]
  rw [askRaw, bind_of_ok hw, hr]

/-- Asking any commands in a row. -/
theorem exists_mapM_askRaw {b : Bench σ} {opened : OpenedDevice} {f : List UInt8 → List UInt8}
    {stands : σ → Dialogue → Prop} (hp : opened.link.profile ≠ .ieeeBlock)
    (h : Complies (bus.device opened.handle) opened.link.endpoints.bulkOut
      opened.link.endpoints.bulkIn f stands)
    (hpos : 0 < opened.link.maxTransferSize.toNat) (commands : List (List UInt8))
    (tags : TagCounter) {s : σ} (hs : stands s (.listening [])) :
    ∃ tags' t, commands.mapM (askRaw bus) (retagged b opened tags s) =
        (.ok (commands.map f), retagged b opened tags' t) ∧
      stands t (.listening []) := by
  induction commands generalizing tags s with
  | nil => exact ⟨tags, s, by rw [List.mapM_nil]; rfl, hs⟩
  | cons command commands ih =>
    obtain ⟨tags', u, hask, hlistens⟩ := exists_askRaw hp h hpos command tags hs
    obtain ⟨tags'', t, hrest, hlistens⟩ := ih tags' hlistens
    refine ⟨tags'', t, ?_, hlistens⟩
    rw [List.mapM_cons, bind_of_ok hask, bind_of_ok hrest]
    rfl

/-- Commands that are asked of an instrument one after the other are answered one after the other,
each by its reply. The session stays open, with nothing but the tags of its link changed. -/
theorem askRaw_dialogue {b : Bench σ} (hb : Reachable bus b) {opened : OpenedDevice}
    (ho : b.session.opened = some opened) (hp : opened.link.profile ≠ .ieeeBlock)
    {f : List UInt8 → List UInt8} {stands : σ → Dialogue → Prop}
    (h : Complies (bus.device opened.handle) opened.link.endpoints.bulkOut
      opened.link.endpoints.bulkIn f stands)
    (hs : stands b.bus (.listening [])) (commands : List (List UInt8)) :
    ∃ tags s, commands.mapM (askRaw bus) b =
        (.ok (commands.map f), retagged b opened tags s) ∧
      stands s (.listening []) := by
  have hstart : retagged b opened opened.link.tags b.bus = b := by
    obtain ⟨⟨_, _, _⟩, _⟩ := b
    obtain rfl : _ = some opened := ho
    rfl
  have hasked := exists_mapM_askRaw (b := b) hp h (hb.maxTransferSize_pos ho) commands
    opened.link.tags hs
  rwa [hstart] at hasked

/-- Three commands, one of them empty, to an instrument that says everything backwards, of whose
chunks none fits more than a byte. -/
theorem askRaw_dialogue_reverse :
    ∃ b, [[1, 2, 3], [], [4, 5]].mapM (askRaw (Instrument.bus List.reverse 7))
        (Instrument.opened List.reverse 7) = (.ok [[3, 2, 1], [], [5, 4]], b) ∧
      b.session.isOpen = true ∧ b.bus = .listening [] := by
  obtain ⟨o, ho, hp⟩ : ∃ o, (Instrument.opened List.reverse 7).session.opened = some o ∧
      o.link.profile ≠ .ieeeBlock := ⟨_, rfl, nofun⟩
  obtain ⟨tags, s, hask, hlistens⟩ := askRaw_dialogue (Instrument.reachable_opened List.reverse 7)
    ho hp (Instrument.complies_device List.reverse (by decide) _ _) rfl [[1, 2, 3], [], [4, 5]]
  exact ⟨_, hask, rfl, hlistens⟩

end Session

end Benchtop
