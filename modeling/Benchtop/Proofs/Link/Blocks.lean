import Benchtop.Proofs.Link.Moves
import Benchtop.Proofs.Link.Reading
import Benchtop.Proofs.Wire.Block

/-!
# Reading of definite blocks

Only the first transfer of an answer of the block profile has an envelope. What of the answer is there
after it may be less than the envelope's size, more of it padding, or only a pending marker that a
bare transfer takes the place of; the block may go on in further transfers, and something else may
follow it. `BlockDelivery` is an answer as it arrives, and `BlockDelivery.Brings` says that it brings a
block.

Main statement: as soon as the prefix of the block is there, its length is what is read, and the payload
is what is given, whatever the envelope's size (`readMessage_block`).

The envelope's size still cuts the first transfer. Where a whole block has come in that, but the size
stops short of its end, the bytes after are dropped: the reader waits for them to come again, or does
not see that there is a block (`readMessage_understated`).
-/

namespace Benchtop.Link

open Usb Wire

variable {σ : Type} {dev : Device σ}

/-! ## Reading as far as is needed -/

/-- The first of the transfers, until there are `need` bytes; `got` are there before. -/
def needed (need : Nat) : (got : Nat) → List (List UInt8) → List (List UInt8)
  | _, [] => []
  | got, transfer :: queue =>
    if need ≤ got then [] else transfer :: needed need (got + transfer.length) queue

theorem needed_prefix (need got : Nat) (queue : List (List UInt8)) :
    needed need got queue <+: queue := by
  fun_induction needed need got queue with
  | case1 => exact List.prefix_refl []
  | case2 => exact List.nil_prefix
  | case3 got transfer queue _ ih => exact List.prefix_cons_inj transfer |>.2 ih

/-- The transfers are enough if the whole queue is. -/
theorem le_length_needed {need got : Nat} {queue : List (List UInt8)}
    (h : need ≤ got + queue.flatten.length) : need ≤ got + (needed need got queue).flatten.length := by
  fun_induction needed need got queue with
  | case1 => exact h
  | case2 _ _ _ hle => simpa using hle
  | case3 got transfer queue _ ih =>
    rw [List.flatten_cons, List.length_append, ← Nat.add_assoc] at h ⊢
    exact ih h

/-- Without the last of them they are not enough. -/
theorem lt_of_needed_eq_concat {need got : Nat} {queue before : List (List UInt8)}
    {last : List UInt8} (h : needed need got queue = before ++ [last]) :
    got + before.flatten.length < need := by
  fun_induction needed need got queue generalizing before with
  | case1 => simp at h
  | case2 => simp at h
  | case3 got transfer queue hlt ih =>
    cases before with
    | nil => simpa using hlt
    | cons first before =>
      rw [List.cons_append, List.cons.injEq] at h
      obtain ⟨rfl, h⟩ := h
      rw [List.flatten_cons, List.length_append, ← Nat.add_assoc]
      exact ih h

/-- Of a queue that is long enough, what is needed is read. -/
theorem readAll_of_queue {link : Link} {tag : UInt8} {need : Nat} {data : List UInt8}
    {queue : List (List UInt8)} {s t : σ} (hne : ∀ transfer ∈ queue, transfer ≠ [])
    (hle : need ≤ data.length + queue.flatten.length)
    (ht : dev.Trace s ((needed need data.length queue).map (received link)) t) :
    readAll dev tag need data ⟨link, s⟩ =
      (.ok (data ++ (needed need data.length queue).flatten), ⟨link, t⟩) := by
  have hread := needed_prefix need data.length queue
  refine readAll_of_trace (fun transfer hm => hne transfer (hread.subset hm)) (fun hm => ?_) ?_ ht
  · have h := lt_of_needed_eq_concat (List.dropLast_concat_getLast hm).symm
    rwa [List.length_append]
  · rw [List.length_append]
    exact le_length_needed hle

/-- The block that some bytes start is read to its end, and not beyond. -/
theorem readBlock_of_trace {link : Link} {tag : UInt8} {block : Block} {start : List UInt8}
    (hstart : block.announcement <+: start) {queue : List (List UInt8)}
    (hne : ∀ transfer ∈ queue, transfer ≠ [])
    (hle : block.bytes.length ≤ start.length + queue.flatten.length) (size : Nat) {s t : σ}
    (ht : dev.Trace s ((needed block.bytes.length start.length queue).map (received link)) t) :
    readBlock dev tag start size ⟨link, s⟩ =
      (.ok (((start ++ (needed block.bytes.length start.length queue).flatten).take
        block.bytes.length).drop (2 + block.width)), ⟨link, t⟩) := by
  obtain ⟨rest, rfl⟩ := hstart
  rw [readBlock, block.parse?_announcement_append]
  rw [block.length_bytes] at *
  simp only [Bool.false_eq_true, if_false]
  rw [bind_of_ok (readAll_of_queue hne hle ht)]
  rfl

/-! ## The first transfer -/

/-- The header announces `size` bytes in answer to the request `tag`. -/
structure Announces (header : List UInt8) (tag : UInt8) (size : UInt32) : Prop where
  length_header : header.length = headerSize
  parse_header : ∃ isLast char, Envelope.parse header .dataIn = .ok ⟨.dataIn, tag, size, isLast, char⟩

/-- What reading a block does after the first transfer. -/
theorem readMessage_of_first {link : Link} (hp : link.profile = .ieeeBlock) {header body : List UInt8}
    {size : UInt32} (ha : Announces header link.tags.next.current size) {n : Nat} {s t : σ}
    (ht : dev.Trace s [requested link link.tags.next.current n, received link (header ++ body)] t) :
    readMessage dev ⟨link, s⟩ =
      (if isPendingMarker (body.take size.toNat) then do
        let data ← receive dev link.tags.next.current
        readBlock dev link.tags.next.current data data.length
      else readBlock dev link.tags.next.current (body.take size.toNat) size.toNat)
        ⟨{ link with tags := link.tags.next }, t⟩ := by
  obtain ⟨u, hu, v, hv, rfl⟩ := ht
  obtain ⟨isLast, char, hparse⟩ := ha.parse_header
  have hdrop : (header ++ body).drop headerSize = body := List.drop_left' ha.length_header
  have hfirst := requestData_of_ok hu hv
    ((Envelope.parse_append (Nat.le_of_eq ha.length_header.symm) body .dataIn).trans hparse) rfl
  rw [readMessage, if_pos (Profile.readsBlocks_iff.2 hp), readBlockMessage, bind_of_ok hfirst, hdrop]

/-! ## Blocks as they arrive -/

/-- A block as it arrives. -/
structure BlockDelivery where
  /-- How many bytes of the request the device says it has taken. -/
  taken : Nat
  header : List UInt8
  /-- The size that the header announces. -/
  size : UInt32
  /-- What comes after the header in the first transfer. -/
  body : List UInt8
  /-- The transfer that takes the place of a pending marker. -/
  bare : Option (List UInt8)
  /-- The transfers that the device has ready after these. -/
  queue : List (List UInt8)
  deriving DecidableEq, Repr

namespace BlockDelivery

/-- What the header announces of the first transfer. -/
def enveloped (d : BlockDelivery) : List UInt8 := d.body.take d.size.toNat

/-- The first bytes of the block. -/
def start (d : BlockDelivery) : List UInt8 := d.bare.getD d.enveloped

/-- The delivery answers the request `tag` by the block. `trailer` is what may come after it. -/
structure Brings (d : BlockDelivery) (tag : UInt8) (block : Block) (trailer : List UInt8) : Prop where
  announces : Announces d.header tag d.size
  /-- A bare transfer comes after a pending marker, and only then. -/
  pending_eq : isPendingMarker d.enveloped = d.bare.isSome
  start_prefix : d.start <+: block.bytes ++ trailer
  /-- The prefix of the block is there at once. -/
  width_le : 2 + block.width ≤ d.start.length
  ne_nil : ∀ transfer ∈ d.queue, transfer ≠ []
  covers : block.bytes <+: d.start ++ d.queue.flatten

/-- The transfers of the queue that the block needs. -/
def more (d : BlockDelivery) (block : Block) : List (List UInt8) :=
  needed block.bytes.length d.start.length d.queue

/-- The request, and the transfers that the block needs. -/
def events (d : BlockDelivery) (link : Link) (block : Block) : List Event :=
  requested link link.tags.next.current d.taken ::
    (((d.header ++ d.body) :: d.bare.toList) ++ d.more block).map (received link)

theorem filterMap_sent?_events (d : BlockDelivery) (link : Link) (block : Block) :
    (d.events link block).filterMap Event.sent? = [requestBytes link link.tags.next.current] := by
  have hmore (transfers : List (List UInt8)) :
      (transfers.map (received link)).filterMap Event.sent? = [] := by
    rw [List.filterMap_map]
    exact List.filterMap_eq_nil_iff.2 fun _ _ => rfl
  rw [events, List.filterMap_cons_some (rfl : (requested link _ d.taken).sent? = some _), hmore]

variable {d : BlockDelivery} {tag : UInt8} {block : Block} {trailer : List UInt8}

theorem Brings.announcement_prefix (h : d.Brings tag block trailer) :
    block.announcement <+: d.start := by
  obtain ⟨rest, he⟩ := block.exists_of_prefix h.start_prefix h.width_le
  exact ⟨rest, he.symm⟩

theorem Brings.length_le (h : d.Brings tag block trailer) :
    block.bytes.length ≤ d.start.length + d.queue.flatten.length := by
  rw [← List.length_append]
  exact h.covers.length_le

/-- What is read begins with the block. -/
theorem Brings.take_eq (h : d.Brings tag block trailer) :
    (d.start ++ (d.more block).flatten).take block.bytes.length = block.bytes := by
  have hlength : block.bytes.length ≤ (d.start ++ (d.more block).flatten).length := by
    rw [List.length_append]
    exact le_length_needed h.length_le
  obtain ⟨rest, hrest⟩ := needed_prefix block.bytes.length d.start.length d.queue
  have hread : d.start ++ (d.more block).flatten <+: d.start ++ d.queue.flatten := by
    rw [← hrest, List.flatten_append, ← List.append_assoc]
    exact List.prefix_append _ _
  exact (List.prefix_iff_eq_take.1 (List.prefix_of_prefix_length_le h.covers hread hlength)).symm

/-- However much of the block has come at first, its payload is what is read. -/
theorem Brings.readBlock_eq {link : Link} (h : d.Brings tag block trailer) (size : Nat) {s t : σ}
    (ht : dev.Trace s ((d.more block).map (received link)) t) :
    readBlock dev tag d.start size ⟨link, s⟩ = (.ok block.payload, ⟨link, t⟩) := by
  rw [readBlock_of_trace h.announcement_prefix h.ne_nil h.length_le size ht,
    show needed _ _ _ = d.more block from rfl, h.take_eq, block.drop_bytes]

end BlockDelivery

theorem readMessage_of_brings {link : Link} (hp : link.profile = .ieeeBlock) {d : BlockDelivery}
    {block : Block} {trailer : List UInt8} (hd : d.Brings link.tags.next.current block trailer)
    {s t : σ} (ht : dev.Trace s (d.events link block) t) :
    readMessage dev ⟨link, s⟩ = (.ok block.payload, ⟨{ link with tags := link.tags.next }, t⟩) := by
  rw [BlockDelivery.events, List.map_append, List.map_cons, List.cons_append] at ht
  obtain ⟨u, hu, v, hv, ht⟩ := ht
  rw [readMessage_of_first hp hd.announces ⟨u, hu, v, hv, rfl⟩]
  have hpending : isPendingMarker (d.body.take d.size.toNat) = d.bare.isSome := hd.pending_eq
  match hbare : d.bare with
  | none =>
    have hstart : d.start = d.body.take d.size.toNat := by
      rw [BlockDelivery.start, hbare, Option.getD_none, BlockDelivery.enveloped]
    rw [hbare] at hpending ht
    rw [if_neg (by simp [hpending]), ← hstart]
    exact hd.readBlock_eq _ ht
  | some start =>
    have hstart : d.start = start := by rw [BlockDelivery.start, hbare, Option.getD_some]
    rw [hbare] at hpending ht
    obtain ⟨w, hw, ht⟩ := ht
    have hreceive : receive dev link.tags.next.current ⟨{ link with tags := link.tags.next }, v⟩ =
        (.ok start, ⟨{ link with tags := link.tags.next }, w⟩) := receive_of_ok hw
    rw [if_pos (by simp [hpending]), bind_of_ok hreceive, ← hstart]
    exact hd.readBlock_eq _ ht

/-- Reading a message of the block profile gives the payload of the block that the device brings, cut
anywhere after its prefix: its length is what the prefix says, not what the envelope says. One request
is made, and the transfers of the queue are fetched until the block is there. -/
theorem readMessage_block {link : Link} (hp : link.profile = .ieeeBlock) {d : BlockDelivery}
    {block : Block} {trailer : List UInt8} (hd : d.Brings link.tags.next.current block trailer)
    {s t : σ} (ht : dev.Trace s (d.events link block) t) (log : List Event) :
    readMessage dev.recorded ⟨link, (s, log)⟩ =
        (.ok block.payload,
          ⟨{ link with tags := link.tags.next }, (t, log ++ d.events link block)⟩) ∧
      (d.events link block).filterMap Event.sent? = [requestBytes link link.tags.next.current] ∧
      d.more block <+: d.queue ∧
      ∀ before last, d.more block = before ++ [last] →
        (d.start ++ before.flatten).length < block.bytes.length := by
  refine ⟨readMessage_of_brings hp hd (ht.recorded log), d.filterMap_sent?_events link block,
    needed_prefix _ _ _, fun before last he => ?_⟩
  rw [List.length_append]
  exact lt_of_needed_eq_concat he

/-- The link to an instrument of the block profile. -/
def blockLink : Link :=
  fresh ⟨0x1AB1, 1, none, "mock", 1, []⟩ {} (Scripted.instrumentInterface 0 0 false)
    ⟨0x02, 0x81, none⟩ false

/-- Ten bytes, announced by two digits. -/
def letterBlock : Block where
  width := 2
  payload := Text.bytesOf "ABCDEFGHIJ"
  width_pos := by decide
  width_le := by decide
  length_payload_lt := by decide

/-- A pending marker and padding, the first bytes of the block bare, and the others with a newline. -/
def awaitedDelivery : BlockDelivery where
  taken := 12
  header := (Envelope.mk .dataIn 1 3 true none).bytes
  size := 3
  body := Text.bytesOf "#00" ++ [0]
  bare := some (Text.bytesOf "#210ABCD")
  queue := [Text.bytesOf "EF", Text.bytesOf "GHIJ\n", Text.bytesOf "?"]

/-- The awaited block is read, and what is queued after it stays where it is. -/
theorem readMessage_block_awaited :
    ∃ log bus,
      readMessage (ScriptedBus.device 0).recorded
          ⟨blockLink, (queuedBus ((awaitedDelivery.header ++ awaitedDelivery.body) ::
            awaitedDelivery.bare.toList ++ awaitedDelivery.queue), [])⟩ =
        (.ok (Text.bytesOf "ABCDEFGHIJ"), ⟨{ blockLink with tags := ⟨1⟩ }, (bus, log)⟩) ∧
      bus.devices.map (fun (_, d) => d.bulkInQueue) = [[.raw (Text.bytesOf "?")]] := by
  have hd : awaitedDelivery.Brings blockLink.tags.next.current letterBlock (Text.bytesOf "\n") := by
    refine ⟨⟨rfl, true, none, rfl⟩, ?_, ?_, ?_, ?_, ?_⟩ <;> decide
  have ht : ∃ bus, (ScriptedBus.device 0).Trace
      (queuedBus ((awaitedDelivery.header ++ awaitedDelivery.body) ::
        awaitedDelivery.bare.toList ++ awaitedDelivery.queue))
      (awaitedDelivery.events blockLink letterBlock) bus ∧
        bus.devices.map (fun (_, d) => d.bulkInQueue) = [[.raw (Text.bytesOf "?")]] :=
    ⟨_, ⟨_, rfl, _, rfl, _, rfl, _, rfl, _, rfl, rfl⟩, rfl⟩
  obtain ⟨bus, ht, hq⟩ := ht
  exact ⟨_, bus, (readMessage_block (by decide) hd ht []).1, hq⟩

/-! ## Blocks that the envelope cuts short -/

/-- What is done about a transfer after its call are moves. -/
theorem moves_attempt_receive (tag : UInt8) (c : Connection σ) :
    Moves dev (attempt dev (.bulkIn c.link.endpoints.bulkIn
      (c.link.maxTransferSize.toNat + headerSize + 3) c.link.timing.timeout) c).2
      (receive dev tag c).2 := by
  rw [receive_apply]
  rcases attempt dev (.bulkIn c.link.endpoints.bulkIn
    (c.link.maxTransferSize.toNat + headerSize + 3) c.link.timing.timeout) c with ⟨e | _, c⟩
  · dsimp only
    split
    · exact respects_moves (fun _ => moves_abortIn tag) c
    · exact .refl
  · exact .refl

/-- A block that has not come to its end is read on. -/
theorem moves_attempt_readBlock {block : Block} {start : List UInt8}
    (hstart : block.announcement <+: start) (hlt : start.length < block.bytes.length)
    (tag : UInt8) (size : Nat) (c : Connection σ) :
    Moves dev (attempt dev (.bulkIn c.link.endpoints.bulkIn
      (c.link.maxTransferSize.toNat + headerSize + 3) c.link.timing.timeout) c).2
      (readBlock dev tag start size c).2 := by
  obtain ⟨rest, rfl⟩ := hstart
  rw [block.length_bytes] at hlt
  rw [readBlock, block.parse?_announcement_append]
  simp only [Bool.false_eq_true, if_false]
  rw [readAll, dif_neg (Nat.not_le.2 hlt)]
  refine Respects.bind_at (Respects.bind_at (moves_attempt_receive tag c) fun more => ?_) fun _ =>
    respects_pure _
  split
  · exact respects_throw _
  · exact respects_moves fun _ => moves_readAll _ _ _

/-- A block with a payload is not taken for a pending marker, wherever it is cut. -/
theorem isPendingMarker_take {block : Block} (hne : block.payload ≠ []) (rest : List UInt8)
    (size : Nat) : isPendingMarker ((block.bytes ++ rest).take size) = false := by
  by_cases hsize : size < 2 + block.width
  · have hlength : size ≤ block.bytes.length := by
      rw [block.length_bytes]
      omega
    rw [List.take_append_of_le_length hlength, isPendingMarker, block.parse?_take_bytes hsize]
  · obtain ⟨more, he⟩ := block.announcement_prefix_take (Nat.le_of_not_lt hsize) rest
    rw [← he, block.isPendingMarker_announcement_append]
    simp [hne]

section

variable {link : Link} {block : Block} {header rest : List UInt8} {size : UInt32} {n : Nat} {s t : σ}

/-- The first transfer holds a block, and its envelope holds the block as well. -/
theorem brings_whole {tag : UInt8} (hne : block.payload ≠ []) (ha : Announces header tag size)
    (hsize : block.bytes.length ≤ size.toNat) :
    BlockDelivery.Brings ⟨n, header, size, block.bytes ++ rest, none, []⟩ tag block rest := by
  have hcovers : block.bytes <+: (block.bytes ++ rest).take size.toNat := by
    rw [List.take_append, List.take_of_length_le hsize]
    exact List.prefix_append _ _
  refine ⟨ha, isPendingMarker_take hne rest _, List.take_prefix _ _, ?_, nofun, ?_⟩
  · have := hcovers.length_le
    rw [block.length_bytes] at this
    exact Nat.le_trans (Nat.le_add_right _ _) this
  · exact hcovers.trans (List.prefix_append _ _)

/-- What is done after the first transfer, where it holds a block. -/
theorem readMessage_of_whole (hp : link.profile = .ieeeBlock) (hne : block.payload ≠ [])
    (ha : Announces header link.tags.next.current size)
    (ht : dev.Trace s [requested link link.tags.next.current n,
      received link (header ++ (block.bytes ++ rest))] t) :
    readMessage dev ⟨link, s⟩ =
      readBlock dev link.tags.next.current ((block.bytes ++ rest).take size.toNat) size.toNat
        ⟨{ link with tags := link.tags.next }, t⟩ := by
  rw [readMessage_of_first hp ha ht, if_neg (by simp [isPendingMarker_take hne])]

/-- Where not even the block's prefix is left, what is left is taken for the message. -/
theorem readBlock_take_of_lt (hsize : size.toNat < 2 + block.width) (tag : UInt8) :
    readBlock dev tag ((block.bytes ++ rest).take size.toNat) size.toNat ⟨link, t⟩ =
      (.ok (block.bytes.take size.toNat), ⟨link, t⟩) := by
  have hlength : size.toNat ≤ block.bytes.length := by
    rw [block.length_bytes]
    omega
  have hall : size.toNat ≤ (block.bytes.take size.toNat).length :=
    Nat.le_of_eq (List.length_take_of_le hlength).symm
  rw [List.take_append_of_le_length hlength, readBlock, block.parse?_take_bytes hsize]
  dsimp only
  rw [readAll, dif_pos hall, pure_bind, List.take_take, Nat.min_self]
  rfl

/-- Where the block's prefix is left, but not all of the block, other bytes are read in place of those
that were dropped. -/
theorem readBlock_take_of_le {tag : UInt8} (hwidth : 2 + block.width ≤ size.toNat)
    (hsize : size.toNat < block.bytes.length) {queue : List (List UInt8)}
    (hne : ∀ transfer ∈ queue, transfer ≠ [])
    (hle : block.bytes.length ≤ size.toNat + queue.flatten.length)
    (ht : dev.Trace s ((needed block.bytes.length size.toNat queue).map (received link)) t) :
    readBlock dev tag ((block.bytes ++ rest).take size.toNat) size.toNat ⟨link, s⟩ =
      (.ok (block.payload.take (size.toNat - (2 + block.width)) ++
        (needed block.bytes.length size.toNat queue).flatten.take
          (block.bytes.length - size.toNat)), ⟨link, t⟩) := by
  have hlength : (block.bytes.take size.toNat).length = size.toNat :=
    List.length_take_of_le (Nat.le_of_lt hsize)
  have hstart := block.announcement_prefix_take hwidth rest
  rw [List.take_append_of_le_length (Nat.le_of_lt hsize)] at hstart ⊢
  rw [← hlength] at hle ht
  rw [readBlock_of_trace hstart hne hle _ ht, hlength, List.take_append, hlength, List.take_take,
    Nat.min_eq_right (Nat.le_of_lt hsize),
    List.drop_append_of_le_length (by rw [hlength]; exact hwidth), List.drop_take,
    block.drop_bytes]

/-- A block that has come whole in the first transfer is read if the envelope holds it, whatever comes
after it. Otherwise the envelope cuts it, and the bytes that are cut off are lost: if less than the
block's prefix is left, that is given for the message; else one more transfer at least is asked for, and
what comes takes the place of the lost bytes. -/
theorem readMessage_understated (hp : link.profile = .ieeeBlock) (hne : block.payload ≠ [])
    (ha : Announces header link.tags.next.current size)
    (ht : dev.Trace s [requested link link.tags.next.current n,
      received link (header ++ (block.bytes ++ rest))] t) (log : List Event) :
    let message := readMessage dev.recorded ⟨link, (s, log)⟩
    let next := { link with tags := link.tags.next }
    let log' := log ++ [requested link link.tags.next.current n,
      received link (header ++ (block.bytes ++ rest))]
    (block.bytes.length ≤ size.toNat → message = (.ok block.payload, ⟨next, (t, log')⟩)) ∧
    (size.toNat < 2 + block.width →
      message = (.ok (block.bytes.take size.toNat), ⟨next, (t, log')⟩)) ∧
    (2 + block.width ≤ size.toNat → size.toNat < block.bytes.length →
      (∃ event more, message.2.device.2 = log' ++ event :: more ∧
        event.call = (received link []).call) ∧
      ∀ queue, (∀ transfer ∈ queue, transfer ≠ []) →
        block.bytes.length ≤ size.toNat + queue.flatten.length →
        ∀ u, dev.Trace t ((needed block.bytes.length size.toNat queue).map (received link)) u →
          message =
            (.ok (block.payload.take (size.toNat - (2 + block.width)) ++
              (needed block.bytes.length size.toNat queue).flatten.take
                (block.bytes.length - size.toNat)),
              ⟨next, (u, log' ++
                (needed block.bytes.length size.toNat queue).map (received link))⟩)) := by
  intro message next log'
  have hrecorded := ht.recorded log
  have hwhole : message = readBlock dev.recorded link.tags.next.current
      ((block.bytes ++ rest).take size.toNat) size.toNat ⟨next, (t, log')⟩ :=
    readMessage_of_whole hp hne ha hrecorded
  refine ⟨fun hsize => ?_, fun hsize => ?_, fun hwidth hsize =>
    ⟨?_, fun queue hqueue hle u hu => ?_⟩⟩
  · exact readMessage_of_brings hp (brings_whole hne ha hsize) hrecorded
  · exact hwhole.trans (readBlock_take_of_lt hsize _)
  · have hlt : ((block.bytes ++ rest).take size.toNat).length < block.bytes.length :=
      Nat.lt_of_le_of_lt (List.length_take_le _ _) hsize
    have hm : Moves dev.recorded _ _ :=
      moves_attempt_readBlock (block.announcement_prefix_take hwidth rest) hlt
        link.tags.next.current size.toNat ⟨next, (t, log')⟩
    obtain ⟨more, htrace, -⟩ := hm.exists_trace
    refine ⟨⟨(received link []).call, (dev.perform _ t).1⟩, more, ?_, rfl⟩
    rw [hwhole, htrace.log_eq]
    exact List.append_assoc log' _ more
  · exact hwhole.trans (readBlock_take_of_le hwidth hsize hqueue hle (hu.recorded log'))

end

/-- The header of an envelope of eight bytes, half of the letters cut off. -/
def cuttingHeader : List UInt8 := (Envelope.mk .dataIn 1 8 true none).bytes

/-- Four letters are left, and six bytes of whatever comes next take the place of the others. -/
theorem readMessage_understated_letters :
    ∃ log bus,
      readMessage (ScriptedBus.device 0).recorded
          ⟨blockLink, (queuedBus [cuttingHeader ++ (letterBlock.bytes ++ []),
            Text.bytesOf "0123456789"], [])⟩ =
        (.ok (Text.bytesOf "ABCD012345"), ⟨{ blockLink with tags := ⟨1⟩ }, (bus, log)⟩) ∧
      bus.devices.map (fun (_, d) => d.bulkInQueue) = [[]] := by
  have ha : Announces cuttingHeader blockLink.tags.next.current 8 := ⟨rfl, true, none, rfl⟩
  have ht : ∃ bus, (ScriptedBus.device 0).Trace
      (queuedBus [cuttingHeader ++ (letterBlock.bytes ++ []), Text.bytesOf "0123456789"])
      ([requested blockLink blockLink.tags.next.current 12,
        received blockLink (cuttingHeader ++ (letterBlock.bytes ++ []))] ++
        [received blockLink (Text.bytesOf "0123456789")]) bus ∧
        bus.devices.map (fun (_, d) => d.bulkInQueue) = [[]] :=
    ⟨_, ⟨_, rfl, _, rfl, _, rfl, rfl⟩, rfl⟩
  obtain ⟨bus, ht, hq⟩ := ht
  obtain ⟨first, ht, hmore⟩ := ht.of_append
  obtain ⟨-, -, h⟩ := readMessage_understated (by decide) (by decide) ha ht []
  have hread := (h (by decide) (by decide)).2 [Text.bytesOf "0123456789"] (by decide) (by decide)
    bus hmore
  exact ⟨_, bus, hread, hq⟩

/-- All ten letters have come in the one transfer, and yet nothing is given. -/
theorem not_readMessage_understated :
    let read := readMessage (ScriptedBus.device 0).recorded
      ⟨blockLink, (queuedBus [cuttingHeader ++ letterBlock.bytes], [])⟩
    blockLink.profile = .ieeeBlock ∧ letterBlock.payload ≠ [] ∧
      Announces cuttingHeader blockLink.tags.next.current 8 ∧
      read.2.device.2.filterMap Event.got? = [cuttingHeader ++ letterBlock.bytes] ∧
      read.1.toOption = none := by
  refine ⟨rfl, by decide, ⟨rfl, true, none, rfl⟩, ?_⟩
  decide +kernel

end Benchtop.Link
