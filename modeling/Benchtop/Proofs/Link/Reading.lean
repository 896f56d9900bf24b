import Benchtop.Link.Opening
import Benchtop.Proofs.Link.Transfer
import Benchtop.Proofs.Trace
import Benchtop.Proofs.Wire.Envelope
import Benchtop.Scripted.Bus
import Mathlib.Logic.Function.Iterate

/-!
# Reassembly of a message

A device answers a request for data by an envelope, whose payload may arrive in any number of
transfers. A `Delivery` is one such envelope as it arrives, and `Delivery.Answers` says that it is in
order: it has the tag of the request, the transfers bring the payload, all of them are needed, and the
last may bring more. `exchange` lists the calls by which such envelopes are fetched, with the answers.

Main statement: whatever a device does otherwise, if it answers the calls of an exchange in this way,
reading a message makes just these calls and gives the payloads one after the other
(`readMessage_reassembles`). What the device holds beyond that it still holds.
-/

namespace Benchtop.Link

open Usb Wire

variable {σ : Type} {dev : Device σ}

/-! ## Deliveries -/

/-- An envelope as it arrives. -/
structure Delivery where
  /-- How many bytes of the request the device says it has taken. -/
  taken : Nat
  header : List UInt8
  payload : List UInt8
  /-- What comes after the header in the first transfer. -/
  first : List UInt8
  /-- The transfers after the first. -/
  more : List (List UInt8)
  deriving DecidableEq, Repr

namespace Delivery

/-- The delivery answers the request `tag`, and `isLast` says whether it ends the message. -/
structure Answers (d : Delivery) (tag : UInt8) (isLast : Bool) : Prop where
  length_header : d.header.length = headerSize
  parse_header : ∃ char, Envelope.parse d.header .dataIn =
    .ok ⟨.dataIn, tag, .ofNat d.payload.length, isLast, char⟩
  length_payload_lt : d.payload.length < UInt32.size
  payload_prefix : d.payload <+: d.first ++ d.more.flatten
  ne_nil : ∀ transfer ∈ d.more, transfer ≠ []
  /-- The payload is not complete before the last transfer. -/
  length_lt : d.more ≠ [] → (d.first ++ d.more.dropLast.flatten).length < d.payload.length

/-- The transfers in which the envelope arrives. -/
def transfers (d : Delivery) : List (List UInt8) := (d.header ++ d.first) :: d.more

end Delivery

/-- The deliveries answer the requests after `tags`, and the last of them ends the message. -/
def Answer : TagCounter → List Delivery → Prop
  | _, [] => True
  | tags, d :: ds => d.Answers tags.next.current ds.isEmpty ∧ Answer tags.next ds

/-! ## Exchanges -/

/-- The request `tag` for data. -/
def requestBytes (link : Link) (tag : UInt8) : List UInt8 :=
  (Envelope.request tag link.maxTransferSize
    (if link.capabilities.termChar then link.termChar else none)).bytes

/-- A request for data that the device takes. -/
def requested (link : Link) (tag : UInt8) (n : Nat) : Event where
  call := .bulkOut link.endpoints.bulkOut (requestBytes link tag) link.timing.timeout
  answer := .ok n

/-- A transfer of the device. -/
def received (link : Link) (transfer : List UInt8) : Event where
  call := .bulkIn link.endpoints.bulkIn (link.maxTransferSize.toNat + headerSize + 3)
    link.timing.timeout
  answer := .ok transfer

/-- One request for each of the deliveries, tagged on from `tags`, and the transfers that answer
it. -/
def exchange (link : Link) : TagCounter → List Delivery → List Event
  | _, [] => []
  | tags, d :: ds =>
    requested link tags.next.current d.taken :: d.transfers.map (received link) ++
      exchange link tags.next ds

/-- The tag of a link has no part in its exchanges but by the tags of the requests. -/
theorem exchange_tags (link : Link) (c tags : TagCounter) (ds : List Delivery) :
    exchange { link with tags := c } tags ds = exchange link tags ds := by
  induction ds generalizing tags with
  | nil => rfl
  | cons d ds ih =>
    rw [exchange, exchange, ih]
    rfl

/-- The requests of an exchange are as many as the deliveries, tagged one after the other. -/
theorem filterMap_sent?_exchange (link : Link) (tags : TagCounter) (ds : List Delivery) :
    (exchange link tags ds).filterMap Event.sent? =
      (List.range ds.length).map fun i => requestBytes link (TagCounter.next^[i + 1] tags).current := by
  induction ds generalizing tags with
  | nil => rfl
  | cons d ds ih =>
    have hmore : (d.transfers.map (received link)).filterMap Event.sent? = [] := by
      rw [List.filterMap_map]
      exact List.filterMap_eq_nil_iff.2 fun _ _ => rfl
    have hrequest : (requested link tags.next.current d.taken).sent? =
        some (requestBytes link tags.next.current) := rfl
    rw [exchange, List.filterMap_append, List.filterMap_cons_some hrequest, hmore, ih,
      List.length_cons, List.range_succ_eq_map, List.map_cons, List.map_map]
    rfl

/-- The transfers of an exchange are those of the deliveries. -/
theorem filterMap_got?_exchange (link : Link) (tags : TagCounter) (ds : List Delivery) :
    (exchange link tags ds).filterMap Event.got? = ds.flatMap (·.transfers) := by
  induction ds generalizing tags with
  | nil => rfl
  | cons d ds ih =>
    have hmore : (d.transfers.map (received link)).filterMap Event.got? = d.transfers := by
      rw [List.filterMap_map]
      exact List.filterMap_some
    have hrequest : (requested link tags.next.current d.taken).got? = none := rfl
    rw [exchange, List.filterMap_append, List.filterMap_cons_none hrequest, hmore, ih,
      List.flatMap_cons]

/-! ## One envelope -/

theorem requestData_of_ok {link : Link} {n : Nat} {transfer : List UInt8} {e : Envelope}
    {s t u : σ}
    (hs : dev.perform (requested link link.tags.next.current n).call s = (.ok n, t))
    (hr : dev.perform (received link transfer).call t = (.ok transfer, u))
    (hp : Envelope.parse transfer .dataIn = .ok e) (htag : e.tag = link.tags.next.current) :
    requestData dev ⟨link, s⟩ =
      (.ok ⟨e, transfer.drop headerSize, link.tags.next.current⟩,
        ⟨{ link with tags := link.tags.next }, u⟩) := by
  have hsend : send dev link.tags.next.current (requestBytes link link.tags.next.current)
      ⟨{ link with tags := link.tags.next }, s⟩ =
        (.ok (), ⟨{ link with tags := link.tags.next }, t⟩) := send_of_ok hs
  have hreceive : receive dev link.tags.next.current ⟨{ link with tags := link.tags.next }, t⟩ =
      (.ok transfer, ⟨{ link with tags := link.tags.next }, u⟩) := receive_of_ok hr
  refine (bind_of_ok (nextTag_apply _)).trans ((bind_of_ok hsend).trans
    ((bind_of_ok hreceive).trans ?_))
  simp only [hp, htag, ne_eq, not_true_eq_false, if_false]
  rfl

/-- Transfers that are needed are read, the last of them with what it brings beyond the need. -/
theorem readAll_of_trace {link : Link} {tag : UInt8} {need : Nat} {data : List UInt8}
    {more : List (List UInt8)} {s t : σ} (hne : ∀ transfer ∈ more, transfer ≠ [])
    (hlt : more ≠ [] → (data ++ more.dropLast.flatten).length < need)
    (hle : need ≤ (data ++ more.flatten).length)
    (ht : dev.Trace s (more.map (received link)) t) :
    readAll dev tag need data ⟨link, s⟩ = (.ok (data ++ more.flatten), ⟨link, t⟩) := by
  -- The data grow by the transfers, each of which is shown to be still needed.
  induction more generalizing data s with
  | nil =>
    obtain rfl : s = t := ht
    rw [List.flatten_nil, List.append_nil] at hle ⊢
    rw [readAll, dif_pos hle]
    rfl
  | cons transfer more ih =>
    obtain ⟨u, hu, ht⟩ := ht
    have hneed : ¬ need ≤ data.length := by
      have := hlt (List.cons_ne_nil _ _)
      rw [List.length_append] at this
      omega
    rw [readAll, dif_neg hneed, bind_of_ok (receive_of_ok hu),
      dif_neg (hne transfer List.mem_cons_self)]
    rw [List.flatten_cons, ← List.append_assoc] at hle ⊢
    refine ih (fun x hx => hne x (List.mem_cons_of_mem _ hx)) (fun hm => ?_) hle ht
    have := hlt (List.cons_ne_nil _ _)
    rwa [List.dropLast_cons_of_ne_nil hm, List.flatten_cons, ← List.append_assoc] at this

/-- An envelope is read as far as its payload goes. -/
theorem readEnvelope_of_trace {link : Link} {d : Delivery} {isLast : Bool} {s t : σ}
    (ha : d.Answers link.tags.next.current isLast)
    (ht : dev.Trace s
      (requested link link.tags.next.current d.taken :: d.transfers.map (received link)) t) :
    readEnvelope dev ⟨link, s⟩ =
      (.ok (d.payload, isLast), ⟨{ link with tags := link.tags.next }, t⟩) := by
  obtain ⟨u, hu, v, hv, ht⟩ := ht
  obtain ⟨char, hparse⟩ := ha.parse_header
  have hsize : (UInt32.ofNat d.payload.length).toNat = d.payload.length :=
    UInt32.toNat_ofNat_of_lt' ha.length_payload_lt
  have hdrop : (d.header ++ d.first).drop headerSize = d.first :=
    List.drop_left' ha.length_header
  have hfirst := requestData_of_ok hu hv
    ((Envelope.parse_append (Nat.le_of_eq ha.length_header.symm) d.first .dataIn).trans hparse) rfl
  have hall : readAll dev link.tags.next.current d.payload.length d.first
      ⟨{ link with tags := link.tags.next }, v⟩ =
        (.ok (d.first ++ d.more.flatten), ⟨{ link with tags := link.tags.next }, t⟩) :=
    readAll_of_trace ha.ne_nil ha.length_lt ha.payload_prefix.length_le ht
  rw [readEnvelope, bind_of_ok hfirst]
  simp only [hsize, hdrop]
  rw [bind_of_ok hall, ← List.prefix_iff_eq_take.1 ha.payload_prefix]
  rfl

/-! ## A message -/

theorem readEnvelopes?_of_trace {link : Link} {message : List UInt8} {ds : List Delivery}
    {s t : σ} (hne : ds ≠ []) (ha : Answer link.tags ds)
    (ht : dev.Trace s (exchange link link.tags ds) t) :
    Connection.readEnvelopes? dev message ⟨link, s⟩ =
      some (.ok (message ++ ds.flatMap (·.payload)),
        ⟨{ link with tags := TagCounter.next^[ds.length] link.tags }, t⟩) := by
  induction ds generalizing link message s with
  | nil => exact absurd rfl hne
  | cons d ds ih =>
    obtain ⟨hd, ha⟩ := ha
    obtain ⟨u, hu, ht⟩ := ht.of_append
    rw [Connection.readEnvelopes?, readEnvelope_of_trace hd hu]
    cases ds with
    | nil =>
      obtain rfl : u = t := ht
      simp
    | cons d' ds =>
      rw [← exchange_tags link link.tags.next] at ht
      have hrest := @ih { link with tags := link.tags.next } (message ++ d.payload) u
        (List.cons_ne_nil _ _) ha ht
      rw [List.isEmpty_cons]
      refine hrest.trans ?_
      rw [List.append_assoc, ← List.flatMap_cons]
      rfl

/-- Reading a message reassembles it, whatever the transfers that it arrives in: there is one request
for each envelope, tagged on from the last tag, and the transfers of these envelopes are all that is
fetched. -/
theorem readMessage_reassembles {link : Link} (hp : link.profile ≠ .ieeeBlock)
    {ds : List Delivery} (hne : ds ≠ []) (ha : Answer link.tags ds) {s t : σ}
    (ht : dev.Trace s (exchange link link.tags ds) t) (log : List Event) :
    readMessage dev.recorded ⟨link, (s, log)⟩ =
        (.ok (ds.flatMap (·.payload)),
          ⟨{ link with tags := TagCounter.next^[ds.length] link.tags },
            (t, log ++ exchange link link.tags ds)⟩) ∧
      (exchange link link.tags ds).filterMap Event.sent? =
        (List.range ds.length).map (fun i =>
          requestBytes link (TagCounter.next^[i + 1] link.tags).current) ∧
      (exchange link link.tags ds).filterMap Event.got? = ds.flatMap (·.transfers) := by
  have hblocks : ¬ link.profile.readsBlocks := mt Profile.readsBlocks_iff.1 hp
  refine ⟨?_, filterMap_sent?_exchange link link.tags ds, filterMap_got?_exchange link link.tags ds⟩
  rw [readMessage, if_neg hblocks, readEnvelopes?_of_trace hne ha (ht.recorded log)]
  rfl

/-! ## On a scripted device -/

/-- The link to a plain instrument whose last tag is 254. -/
def plainLink : Link :=
  { fresh ⟨0x1334, 1, none, "mock", 1, []⟩ {} (Scripted.instrumentInterface 0 0 false)
      ⟨0x02, 0x81, none⟩ false with
    tags := ⟨254⟩ }

/-- Three bytes that arrive one by one, the last with a surplus byte, and two in one transfer. -/
def splitDeliveries : List Delivery :=
  [⟨12, (Envelope.mk .dataIn 255 3 false none).bytes, [1, 2, 3], [1], [[2], [3, 0]]⟩,
    ⟨12, (Envelope.mk .dataIn 1 2 true none).bytes, [4, 5], [4, 5, 0, 0], []⟩]

/-- A bus with one claimed device that has these transfers to bring. -/
def queuedBus (transfers : List (List UInt8)) : ScriptedBus :=
  { devices := [(⟨0x1334, 1, none, "mock", 1, []⟩,
      { ScriptedDevice.plain with claimed := some 0, bulkInQueue := transfers.map .raw })] }

/-- The split message is read, and what is queued after it stays where it is. -/
theorem readMessage_reassembles_splitDeliveries :
    ∃ log bus,
      readMessage (ScriptedBus.device 0).recorded
          ⟨plainLink, (queuedBus (splitDeliveries.flatMap (·.transfers) ++ [[6]]), [])⟩ =
        (.ok [1, 2, 3, 4, 5], ⟨{ plainLink with tags := ⟨1⟩ }, (bus, log)⟩) ∧
      bus.devices.map (fun (_, d) => d.bulkInQueue) = [[.raw [6]]] := by
  have ha : Answer plainLink.tags splitDeliveries := by
    refine ⟨⟨rfl, ⟨none, rfl⟩, by decide, by decide, by decide, by decide⟩,
      ⟨rfl, ⟨none, rfl⟩, by decide, by decide, by decide, by decide⟩, trivial⟩
  have ht : ∃ bus, (ScriptedBus.device 0).Trace
      (queuedBus (splitDeliveries.flatMap (·.transfers) ++ [[6]]))
      (exchange plainLink plainLink.tags splitDeliveries) bus ∧
        bus.devices.map (fun (_, d) => d.bulkInQueue) = [[.raw [6]]] :=
    ⟨_, ⟨_, rfl, _, rfl, _, rfl, _, rfl, _, rfl, _, rfl, rfl⟩, rfl⟩
  obtain ⟨bus, ht, hq⟩ := ht
  exact ⟨_, bus, (readMessage_reassembles (by decide) (by decide) ha ht []).1, hq⟩

end Benchtop.Link
