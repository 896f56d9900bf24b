import Benchtop.Proofs.Link.Acceptance
import Benchtop.Proofs.Link.Blocks

/-!
# Pending markers

A device that has no block ready yet sends a pending marker, and the transfer after it takes the place
of the first. Nothing of the marker itself becomes part of the message: a message that is read after it
is a stretch of what came after it (`readMessage_marker`).

The transfer after a pending marker is taken for the block. If it is one more pending marker, the
message ends there: it is that marker read as a block (`bareMessage`), and no further transfer is
fetched. So `#00` after a marker is a message of one digit.
-/

namespace Benchtop.Link

open Usb Wire

variable {σ : Type} {dev : Device σ}

/-! ## What is read of a block -/

/-- A transfer that is given has come. -/
theorem trace_of_receive {tag : UInt8} {transfer : List UInt8} {c c' : Connection σ}
    (h : receive dev tag c = (.ok transfer, c')) :
    dev.Trace c.device [received c.link transfer] c'.device ∧ c'.link = c.link := by
  rcases receive_cases dev tag c with ⟨_, t, ht, hr⟩ | ⟨_, _, _, _, _, hr⟩
  · cases h.symm.trans hr
    exact ⟨ht, rfl⟩
  · cases h.symm.trans hr

theorem readAll_of_le {tag : UInt8} {need : Nat} {data : List UInt8} (h : need ≤ data.length)
    (c : Connection σ) : readAll dev tag need data c = (.ok data, c) := by
  rw [readAll, dif_pos h]
  rfl

/-- Reading on ends with the transfers that were fetched for it. -/
theorem exists_of_readAll {tag : UInt8} {need : Nat} {data read : List UInt8} {c c' : Connection σ}
    (h : readAll dev tag need data c = (.ok read, c')) :
    ∃ more : List (List UInt8), dev.Trace c.device (more.map (received c.link)) c'.device ∧
      c'.link = c.link ∧ read = data ++ more.flatten := by
  have hon := readingOn_readAll dev tag need data c
  rw [h] at hon
  cases hon with
  | @complete more t _ _ _ ht => exact ⟨more, ht, rfl, rfl⟩

/-- What is read to the end of a block is a stretch of what was there and of what was fetched. -/
theorem exists_of_readBlock {tag : UInt8} {data message : List UInt8} {size : Nat}
    {c c' : Connection σ} (h : readBlock dev tag data size c = (.ok message, c')) :
    ∃ more : List (List UInt8), dev.Trace c.device (more.map (received c.link)) c'.device ∧
      message <:+: data ++ more.flatten := by
  rw [readBlock] at h
  cases hparse : BlockHeader.parse? data with
  | none =>
    rw [hparse] at h
    obtain ⟨read, d, hread, hmessage⟩ := exists_of_bind_eq_ok h
    obtain ⟨more, ht, -, rfl⟩ := exists_of_readAll hread
    cases hmessage
    exact ⟨more, ht, (List.take_prefix _ _).isInfix⟩
  | some block =>
    rw [hparse] at h
    obtain ⟨read, d, hread, hmessage⟩ := exists_of_bind_eq_ok h
    obtain ⟨more, ht, -, rfl⟩ := exists_of_readAll hread
    cases hmessage
    exact ⟨more, ht, (List.drop_suffix _ _).isInfix.trans (List.take_prefix _ _).isInfix⟩

/-- What a pending marker is read as that is taken for the block. -/
def bareMessage (marker : List UInt8) : List UInt8 :=
  if marker = Text.bytesOf "#00" then Text.bytesOf "0" else []

/-- A pending marker that is taken for the block is a message, and nothing is fetched after it. -/
theorem readBlock_marker {marker : List UInt8} (hm : isPendingMarker marker) (tag : UInt8)
    (c : Connection σ) :
    readBlock dev tag marker marker.length c = (.ok (bareMessage marker), c) := by
  rcases isPendingMarker_iff.1 hm with rfl | rfl | ⟨block, hpayload, rfl⟩
  · exact bind_of_ok (readAll_of_le (Nat.le_refl 2) c)
  · exact bind_of_ok (readAll_of_le (Nat.le_refl 3) c)
  · have hparse := block.parse?_announcement_append []
    have hlength : (block.announcement.take (2 + block.width)).drop (2 + block.width) = [] :=
      List.drop_take_self
    have hzero : block.announcement ≠ Text.bytesOf "#00" := block.announcement_ne [48]
    rw [List.append_nil, hpayload] at hparse
    rw [readBlock, hparse, bareMessage, if_neg hzero]
    refine (bind_of_ok (readAll_of_le (Nat.le_of_eq ?_) c)).trans ?_
    · exact block.length_announcement.symm
    · exact congrArg (fun message => (Except.ok message, c)) hlength

/-! ## Messages -/

/-- After a pending marker, a message that is read is a stretch of the transfers that came after it, in
which the marker has no part. If the first of these is a pending marker as well, the message is what
that is read as, and no transfer is fetched after it. -/
theorem readMessage_marker {link : Link} (hp : link.profile = .ieeeBlock) {header body : List UInt8}
    {size : UInt32} (ha : Announces header link.tags.next.current size)
    (hm : isPendingMarker (body.take size.toNat)) {n : Nat} {s t : σ}
    (ht : dev.Trace s [requested link link.tags.next.current n, received link (header ++ body)] t)
    (log : List Event) :
    let reading := readMessage dev.recorded ⟨link, (s, log)⟩
    let next := { link with tags := link.tags.next }
    let log' := log ++ [requested link link.tags.next.current n, received link (header ++ body)]
    (∀ message, reading.1 = .ok message →
      ∃ transfers, transfers ≠ [] ∧ reading.2.device.2 = log' ++ transfers.map (received link) ∧
        message <:+: transfers.flatten) ∧
    ∀ marker u, isPendingMarker marker → dev.Trace t [received link marker] u →
      reading = (.ok (bareMessage marker), ⟨next, (u, log' ++ [received link marker])⟩) := by
  intro reading next log'
  have hfirst : reading = (receive dev.recorded link.tags.next.current >>= fun data =>
      readBlock dev.recorded link.tags.next.current data data.length) ⟨next, (t, log')⟩ := by
    have hread := readMessage_of_first hp ha (ht.recorded log)
    rwa [if_pos hm] at hread
  constructor
  · intro message hmessage
    obtain ⟨first, c, hreceive, hblock⟩ :=
      exists_of_bind_eq_ok (hfirst.symm.trans (Prod.ext hmessage rfl))
    obtain ⟨ht, hlink⟩ := trace_of_receive hreceive
    obtain ⟨more, hmore, hinfix⟩ := exists_of_readBlock hblock
    rw [hlink] at hmore
    exact ⟨first :: more, List.cons_ne_nil _ _, (ht.append hmore).log_eq, hinfix⟩
  · intro marker u hmarker hu
    obtain ⟨v, hv, rfl⟩ := hu.recorded log'
    have hreceive : receive dev.recorded link.tags.next.current ⟨next, (t, log')⟩ =
        (.ok marker, ⟨next, (u, log' ++ [received link marker])⟩) := receive_of_ok hv
    rw [hfirst, bind_of_ok hreceive]
    exact readBlock_marker hmarker _ _

/-- The header of an envelope of two bytes. -/
def markerHeader : List UInt8 := (Envelope.mk .dataIn 1 2 true none).bytes

/-- The first marker in an envelope, the second one bare, and a block. -/
def markedTransfers : List (List UInt8) :=
  [markerHeader ++ Text.bytesOf "#0", Text.bytesOf "#00", Text.bytesOf "#15HELLO"]

/-- A digit of the second marker is the message, and the block stays where it is. -/
theorem readMessage_marker_twice :
    ∃ log bus,
      readMessage (ScriptedBus.device 0).recorded ⟨blockLink, (queuedBus markedTransfers, [])⟩ =
        (.ok (Text.bytesOf "0"), ⟨{ blockLink with tags := ⟨1⟩ }, (bus, log)⟩) ∧
      bus.devices.map (fun (_, d) => d.bulkInQueue) = [[.raw (Text.bytesOf "#15HELLO")]] := by
  have ha : Announces markerHeader blockLink.tags.next.current 2 := ⟨rfl, true, none, rfl⟩
  have ht : ∃ bus, (ScriptedBus.device 0).Trace (queuedBus markedTransfers)
      ([requested blockLink blockLink.tags.next.current 12,
        received blockLink (markerHeader ++ Text.bytesOf "#0")] ++
        [received blockLink (Text.bytesOf "#00")]) bus ∧
        bus.devices.map (fun (_, d) => d.bulkInQueue) = [[.raw (Text.bytesOf "#15HELLO")]] :=
    ⟨_, ⟨_, rfl, _, rfl, _, rfl, rfl⟩, rfl⟩
  obtain ⟨bus, ht, hq⟩ := ht
  obtain ⟨first, ht, hmarker⟩ := ht.of_append
  have hread := (readMessage_marker (by decide) ha (by decide) ht []).2 _ bus (by decide) hmarker
  exact ⟨_, bus, hread, hq⟩

/-- All that has come is pending markers, and yet there is a byte in the message. -/
theorem not_readMessage_markers :
    let read := readMessage (ScriptedBus.device 0).recorded
      ⟨blockLink, (queuedBus markedTransfers, [])⟩
    blockLink.profile = .ieeeBlock ∧ Announces markerHeader blockLink.tags.next.current 2 ∧
      isPendingMarker (Text.bytesOf "#0") ∧ isPendingMarker (Text.bytesOf "#00") ∧
      read.2.device.2.filterMap Event.got? =
        [markerHeader ++ Text.bytesOf "#0", Text.bytesOf "#00"] ∧
      read.1.toOption = some (Text.bytesOf "0") := by
  refine ⟨rfl, ⟨rfl, true, none, rfl⟩, ?_⟩
  decide +kernel

end Benchtop.Link
