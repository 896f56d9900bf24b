import Benchtop.Proofs.Link.Transfer
import Benchtop.Proofs.Trace
import Benchtop.Proofs.Wire.Envelope
import Benchtop.Proofs.Wire.Tag
import Mathlib.Data.List.Forall2

/-!
# Fragments of a message

A message is written in pieces, each in an envelope of its own. `fragments` lists these envelopes with
their payloads and padding, and a device that accepts the transfers made of them has been sent the
message (`sendPieces_of_trace`).

The rest is about what the device gets. Cutting loses nothing (`Cut.flatten_eq`), makes as many pieces
as are needed (`Cut.length_eq`) and fills all of them but the last (`Cut.length_getElem`,
`Cut.getLast?`); a transfer is read back as the fragment it was made of (`Fragment.read_transfer`);
the tags go round in a cycle of 255 (`TagCounter.toNat_iterate_next`). Together the fragments of a
message carry it (`carries_fragments`).
-/

namespace Benchtop

open Usb Wire

namespace Link

variable {σ : Type} {dev : Device σ}

/-! ## Pieces -/

/-- `ps` are what is cut off `data` in lengths of `size`, with what is left at the end. -/
inductive Cut (size : Nat) : List UInt8 → List (List UInt8) → Prop
  | last {data : List UInt8} (h : data.length ≤ size) : Cut size data [data]
  | more {data : List UInt8} {ps : List (List UInt8)} (h : size < data.length)
    (rest : Cut size (data.drop size) ps) : Cut size data (data.take size :: ps)

theorem cut_pieces {size : Nat} (hs : 0 < size) (data : List UInt8) :
    Cut size data (pieces size data) := by
  fun_induction pieces size data with
  | case1 data h => exact .last (by omega)
  | case2 data h ih => exact .more (by omega) ih

namespace Cut

variable {size : Nat} {data : List UInt8} {ps : List (List UInt8)}

theorem ne_nil (h : Cut size data ps) : ps ≠ [] := by
  cases h <;> simp

/-- The pieces make up the data. -/
theorem flatten_eq (h : Cut size data ps) : ps.flatten = data := by
  induction h with
  | last => simp
  | more _ _ ih => rw [List.flatten_cons, ih, List.take_append_drop]

/-- There are as many pieces as it takes, and at least one. -/
theorem length_eq (hs : 0 < size) (h : Cut size data ps) :
    ps.length = max 1 ((data.length + size - 1) / size) := by
  induction h with
  | @last data h =>
    have : (data.length + size - 1) / size ≤ 1 :=
      Nat.le_of_lt_succ (Nat.div_lt_of_lt_mul (by omega))
    rw [List.length_singleton]
    omega
  | @more data ps h _ ih =>
    have hq : (data.length + size - 1) / size = (data.length - size + size - 1) / size + 1 := by
      rw [← Nat.add_div_right _ hs]
      congr 1
      omega
    have hpos : 0 < (data.length - size + size - 1) / size := Nat.div_pos (by omega) hs
    rw [List.length_cons, ih, List.length_drop, hq]
    omega

/-- Every piece but the last is full. -/
theorem length_getElem (h : Cut size data ps) (i : Nat) (hi : i + 1 < ps.length) :
    ps[i].length = size := by
  induction h generalizing i with
  | last => simp at hi
  | @more data ps h _ ih =>
    cases i with
    | zero =>
      rw [List.getElem_cons_zero, List.length_take]
      omega
    | succ i => exact ih i (Nat.lt_of_succ_lt_succ hi)

/-- The last piece fits, and it is empty only if there are no data. -/
theorem getLast? (h : Cut size data ps) {last : List UInt8} (hl : ps.getLast? = some last) :
    last.length ≤ size ∧ (last = [] → data = []) := by
  induction h with
  | last h =>
    cases hl
    exact ⟨h, id⟩
  | @more data ps h rest ih =>
    have := ih (by rwa [List.getLast?_cons_of_ne_nil rest.ne_nil] at hl)
    refine ⟨this.1, fun he => ?_⟩
    have := List.drop_eq_nil_iff.1 (this.2 he)
    omega

/-- A piece is no longer than the size. -/
theorem length_le (h : Cut size data ps) {piece : List UInt8} (hp : piece ∈ ps) :
    piece.length ≤ size := by
  induction h with
  | last h => rwa [List.mem_singleton.1 hp]
  | more h _ ih =>
    rcases List.mem_cons.1 hp with rfl | hp
    · exact List.length_take_le _ _
    · exact ih hp

end Cut

/-! ## Fragments -/

/-- A transfer of a message, taken apart by its envelope. -/
structure Fragment where
  envelope : Envelope
  payload : List UInt8
  /-- What comes after the payload. -/
  rest : List UInt8
  deriving DecidableEq, Repr

namespace Fragment

/-- Takes a transfer of data for the device apart. -/
def read (transfer : List UInt8) : Except EnvelopeError Fragment :=
  (Envelope.parse transfer .dataOut).map fun e =>
    let body := transfer.drop headerSize
    ⟨e, body.take e.size.toNat, body.drop e.size.toNat⟩

/-- A piece of a message in its envelope. -/
def ofPiece (tag : UInt8) (piece : List UInt8) (isLast : Bool) : Fragment where
  envelope := ⟨.dataOut, tag, .ofNat piece.length, isLast, none⟩
  payload := piece
  rest := Envelope.padding (headerSize + piece.length)

/-- The bytes on the wire. -/
def transfer (f : Fragment) : List UInt8 := f.envelope.bytes ++ f.payload ++ f.rest

theorem parse_transfer {f : Fragment} (hk : f.envelope.kind = .dataOut) :
    Envelope.parse f.transfer .dataOut = .ok f.envelope := by
  rw [transfer, List.append_assoc, ← hk]
  exact Envelope.parse_bytes_append _ _

theorem drop_transfer (f : Fragment) : f.transfer.drop headerSize = f.payload ++ f.rest := by
  rw [transfer, List.append_assoc]
  exact List.drop_left' f.envelope.length_bytes

/-- A transfer is read back as the fragment that it was made of. -/
theorem read_transfer {f : Fragment} (hk : f.envelope.kind = .dataOut)
    (hs : f.envelope.size.toNat = f.payload.length) : read f.transfer = .ok f := by
  rw [read, parse_transfer hk, drop_transfer]
  simp [Except.map, hs]

end Fragment

/-- The fragments of a message in these pieces, tagged on from `tags`. -/
def fragments : TagCounter → List (List UInt8) → List Fragment
  | _, [] => []
  | tags, piece :: rest =>
    .ofPiece tags.next.current piece rest.isEmpty :: fragments tags.next rest

@[simp] theorem length_fragments (tags : TagCounter) (ps : List (List UInt8)) :
    (fragments tags ps).length = ps.length := by
  induction ps generalizing tags with
  | nil => rfl
  | cons piece rest ih => rw [fragments, List.length_cons, ih, List.length_cons]

theorem getElem_fragments (tags : TagCounter) (ps : List (List UInt8)) (i : Nat)
    (h : i < (fragments tags ps).length) (hi : i < ps.length) :
    (fragments tags ps)[i] =
      .ofPiece (TagCounter.next^[i + 1] tags).current ps[i] (decide (i + 1 = ps.length)) := by
  induction ps generalizing tags i with
  | nil => cases hi
  | cons piece rest ih =>
    cases i with
    | zero => cases rest <;> rfl
    | succ i =>
      have hi' : i < rest.length := Nat.lt_of_succ_lt_succ hi
      simp only [fragments, List.getElem_cons_succ, List.length_cons, Nat.add_right_cancel_iff]
      rw [ih tags.next i (by simpa using hi') hi', ← Function.iterate_succ_apply]

theorem map_payload_fragments (tags : TagCounter) (ps : List (List UInt8)) :
    (fragments tags ps).map (·.payload) = ps := by
  induction ps generalizing tags with
  | nil => rfl
  | cons piece rest ih => rw [fragments, List.map_cons, ih]; rfl

/-! ## Sending -/

/-- The events are transfers to the device of `link` that it has accepted. -/
def Accepted (link : Link) : List (List UInt8) → List Event → Prop :=
  List.Forall₂ fun transfer event =>
    ∃ n, event = ⟨.bulkOut link.endpoints.bulkOut transfer link.timing.timeout, .ok n⟩

theorem sendPiece_of_accepted {link : Link} {piece : List UInt8} {isLast : Bool} {n : Nat} {s t : σ}
    (h : dev.perform (.bulkOut link.endpoints.bulkOut
      (Fragment.ofPiece link.tags.next.current piece isLast).transfer link.timing.timeout) s =
        (.ok n, t)) :
    sendPiece dev piece isLast ⟨link, s⟩ = (.ok (), ⟨{ link with tags := link.tags.next }, t⟩) := by
  rw [sendPiece, bind_of_ok (nextTag_apply _)]
  exact send_of_ok h

/-- A device that accepts the fragments of a message has been sent the message. -/
theorem sendPieces_of_trace {link : Link} {ps : List (List UInt8)} {events : List Event} {s t : σ}
    (ha : Accepted link ((fragments link.tags ps).map (·.transfer)) events)
    (ht : dev.Trace s events t) :
    sendPieces dev ps ⟨link, s⟩ =
      (.ok (), ⟨{ link with tags := TagCounter.next^[ps.length] link.tags }, t⟩) := by
  induction ps generalizing link events s with
  | nil =>
    cases ha
    obtain rfl : s = t := ht
    rfl
  | cons piece rest ih =>
    cases ha with
    | cons he ha =>
      obtain ⟨n, rfl⟩ := he
      obtain ⟨u, hu, ht⟩ := ht
      cases rest with
      | nil =>
        cases ha
        obtain rfl : u = t := ht
        exact sendPiece_of_accepted hu
      | cons next rest =>
        have hsend : sendPiece dev piece false ⟨link, s⟩ =
            (.ok (), ⟨{ link with tags := link.tags.next }, u⟩) := sendPiece_of_accepted hu
        have hrest := @ih { link with tags := link.tags.next } _ _ ha ht
        exact (bind_of_ok hsend).trans hrest

/-- A message that may be split is sent in pieces as long as the limit allows. -/
theorem writeMessage_apply (link : Link) (hp : link.profile.splitsMessages) (data : List UInt8)
    (s : σ) :
    writeMessage dev data ⟨link, s⟩ =
      sendPieces dev (pieces link.maxTransferSize.toNat data) ⟨link, s⟩ := by
  rw [writeMessage, get_bind_apply]
  simp only [hp, if_true]

/-! ## What is sent -/

/-- The transfers carry `data` in fragments of at most `limit` bytes, tagged on from `tag`. -/
structure Carries (limit : Nat) (tag : UInt8) (data : List UInt8) (transfers : List (List UInt8))
    (fragments : List Fragment) : Prop where
  read_eq : transfers.map Fragment.read = fragments.map .ok
  four_dvd_length : ∀ transfer ∈ transfers, 4 ∣ transfer.length
  padding : ∀ fragment ∈ fragments,
    fragment.rest.length < 4 ∧ ∀ byte ∈ fragment.rest, byte = 0
  /-- No payload is cut short. -/
  size_eq : ∀ fragment ∈ fragments, fragment.payload.length = fragment.envelope.size.toNat
  flatten_eq : (fragments.map (·.payload)).flatten = data
  length_eq : fragments.length = max 1 ((data.length + limit - 1) / limit)
  full : ∀ i, (h : i + 1 < fragments.length) → fragments[i].payload.length = limit
  last : ∀ last, fragments.getLast? = some last →
    last.payload.length ≤ limit ∧ (last.payload = [] → data = [])
  endOfMessage_iff : ∀ i, (h : i < fragments.length) →
    (fragments[i].envelope.endOfMessage ↔ i + 1 = fragments.length)
  tag_eq : ∀ i, (h : i < fragments.length) →
    fragments[i].envelope.tag.toNat = (tag.toNat + i) % 255 + 1

/-- Every fragment of a message is one of its pieces in an envelope. -/
theorem exists_of_mem_fragments {tags : TagCounter} {ps : List (List UInt8)} {fragment : Fragment}
    (h : fragment ∈ fragments tags ps) :
    ∃ tag isLast, ∃ piece ∈ ps, fragment = .ofPiece tag piece isLast := by
  obtain ⟨i, hi, rfl⟩ := List.mem_iff_getElem.1 h
  have hi' : i < ps.length := by simpa using hi
  exact ⟨_, _, ps[i], List.getElem_mem hi', getElem_fragments tags ps i hi hi'⟩

/-- The fragments of a message carry it. -/
theorem carries_fragments {limit : Nat} (h0 : 0 < limit) (hl : limit < UInt32.size) (tag : UInt8)
    (data : List UInt8) :
    Carries limit tag data ((fragments ⟨tag⟩ (pieces limit data)).map (·.transfer))
      (fragments ⟨tag⟩ (pieces limit data)) := by
  have hcut := cut_pieces h0 data
  generalize pieces limit data = ps at hcut
  have hsize : ∀ fragment ∈ fragments ⟨tag⟩ ps,
      fragment.payload.length = fragment.envelope.size.toNat := by
    intro fragment hf
    obtain ⟨_, _, piece, hp, rfl⟩ := exists_of_mem_fragments hf
    exact (UInt32.toNat_ofNat_of_lt' (Nat.lt_of_le_of_lt (hcut.length_le hp) hl)).symm
  constructor
  case size_eq => exact hsize
  case read_eq =>
    rw [List.map_map]
    refine List.map_congr_left fun fragment hf => ?_
    have hs := hsize fragment hf
    obtain ⟨_, _, piece, hp, rfl⟩ := exists_of_mem_fragments hf
    exact Fragment.read_transfer rfl hs.symm
  case four_dvd_length =>
    intro transfer ht
    obtain ⟨fragment, hf, rfl⟩ := List.mem_map.1 ht
    obtain ⟨_, _, piece, hp, rfl⟩ := exists_of_mem_fragments hf
    exact Envelope.four_dvd_length_frame _ piece
  case padding =>
    intro fragment hf
    obtain ⟨_, _, piece, hp, rfl⟩ := exists_of_mem_fragments hf
    exact ⟨Envelope.length_padding_lt _, fun byte hb => List.eq_of_mem_replicate hb⟩
  case flatten_eq => rw [map_payload_fragments, hcut.flatten_eq]
  case length_eq => rw [length_fragments, hcut.length_eq h0]
  case full =>
    intro i hi
    have hi' : i + 1 < ps.length := by simpa using hi
    rw [getElem_fragments _ _ _ _ (Nat.lt_of_succ_lt hi')]
    exact hcut.length_getElem i hi'
  case last =>
    intro last hlast
    refine hcut.getLast? ?_
    rw [← map_payload_fragments ⟨tag⟩ ps, List.getLast?_map, hlast]
    rfl
  case endOfMessage_iff =>
    intro i hi
    rw [getElem_fragments _ _ _ _ (by simpa using hi)]
    simp [Fragment.ofPiece]
  case tag_eq =>
    intro i hi
    rw [getElem_fragments _ _ _ _ (by simpa using hi)]
    exact TagCounter.toNat_iterate_next ⟨tag⟩ i

end Link

/-! ## Devices that accept what is sent -/

/-- While it is ready, the device accepts every transfer on an endpoint, and stays ready. -/
def Usb.Device.Accepts {σ : Type} (dev : Device σ) (endpoint : UInt8) (ready : σ → Prop) : Prop :=
  ∀ s, ready s → ∀ data timeout,
    ∃ n t, dev.perform (.bulkOut endpoint data timeout) s = (.ok n, t) ∧ ready t

theorem Usb.Device.Accepts.exists_trace {σ : Type} {dev : Device σ} {ready : σ → Prop} (link : Link)
    (h : dev.Accepts link.endpoints.bulkOut ready) (transfers : List (List UInt8)) {s : σ}
    (hs : ready s) :
    ∃ events t, link.Accepted transfers events ∧ dev.Trace s events t := by
  induction transfers generalizing s with
  | nil => exact ⟨[], s, .nil, rfl⟩
  | cons transfer transfers ih =>
    obtain ⟨n, u, hu, hr⟩ := h s hs transfer link.timing.timeout
    obtain ⟨events, t, ha, ht⟩ := ih hr
    exact ⟨_ :: events, t, .cons ⟨n, rfl⟩ ha, u, hu, ht⟩

end Benchtop
