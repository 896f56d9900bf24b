import Benchtop.Proofs.Link.Counts
import Benchtop.Proofs.Session.Writing
import Mathlib.Algebra.Group.Nat.Defs

/-!
# Messages in one envelope

An instrument of the block profile is never sent a split message: all bytes of a message go into one
transfer, whatever limit the settings put on its size. Nothing else bounds it, and the size in the envelope
has 32 bits. So the size that is sent is the length modulo `2 ^ 32`, and a reader that goes by it takes
the first bytes of a longer message for all of it (`Fragment.read_transfer_ofPiece`).

Main statement: a message is written with success exactly if the device takes this one transfer, and the
transfer is the message in an envelope (`Frames`) exactly if there are fewer than `2 ^ 32` bytes
(`writeMessage_unsplit`).
-/

namespace Benchtop

open Usb Wire

namespace Link

variable {σ : Type} {dev : Device σ}

/-- The transfer is read as a fragment that is all of the message: its envelope ends the message and has
the size of the data, the data are its payload, and fewer than four zero bytes come after them. -/
structure Frames (data transfer : List UInt8) (fragment : Fragment) : Prop where
  read_eq : Fragment.read transfer = .ok fragment
  endOfMessage : fragment.envelope.endOfMessage = true
  size_eq : fragment.envelope.size.toNat = data.length
  payload_eq : fragment.payload = data
  padding : ∃ k < 4, fragment.rest = List.replicate k 0

/-! ## The size in the envelope -/

/-- A piece of any length is read as what the size in its envelope leaves of it. What is left over is
taken for the bytes after the payload. -/
theorem Fragment.read_transfer_ofPiece (tag : UInt8) (piece : List UInt8) (isLast : Bool) :
    read (ofPiece tag piece isLast).transfer =
      .ok
        { envelope := ⟨.dataOut, tag, .ofNat piece.length, isLast, none⟩
          payload := piece.take (piece.length % 2 ^ 32)
          rest := piece.drop (piece.length % 2 ^ 32) ++
            Envelope.padding (headerSize + piece.length) } := by
  have hle : piece.length % 2 ^ 32 ≤ piece.length := Nat.mod_le _ _
  rw [read, parse_transfer rfl, drop_transfer]
  simp only [ofPiece, Except.map, UInt32.toNat_ofNat', List.take_append_of_le_length hle,
    List.drop_append_of_le_length hle]

/-- Data in one envelope are read as such if their length fits its size, and not otherwise. -/
theorem exists_frames_iff (tag : UInt8) (data : List UInt8) :
    (∃ fragment, Frames data (Fragment.ofPiece tag data true).transfer fragment) ↔
      data.length < 2 ^ 32 := by
  constructor
  · rintro ⟨fragment, hframes⟩
    have hread := hframes.read_eq.symm.trans (Fragment.read_transfer_ofPiece tag data true)
    have hsize := hframes.size_eq
    rw [Except.ok.inj hread] at hsize
    rw [← hsize]
    exact UInt32.toNat_lt_size _
  · intro hlt
    have hsize : data.length % 2 ^ 32 = data.length := Nat.mod_eq_of_lt hlt
    refine ⟨_, Fragment.read_transfer_ofPiece tag data true, rfl, ?_, ?_, ?_⟩
    · exact UInt32.toNat_ofNat_of_lt' hlt
    · dsimp only
      rw [hsize, List.take_length]
    · dsimp only
      rw [hsize, List.drop_length, List.nil_append]
      exact ⟨_, by omega, rfl⟩

/-! ## Writing -/

theorem piecesOf_ieeeBlock {link : Link} (hp : link.profile = .ieeeBlock) (data : List UInt8) :
    link.piecesOf data = [data] := by
  rw [piecesOf, hp]
  rfl

/-- A link that does not split messages sends one piece. -/
theorem writeMessage_ieeeBlock_apply {link : Link} (hp : link.profile = .ieeeBlock) (data : List UInt8)
    (s : σ) : writeMessage dev data ⟨link, s⟩ = sendPiece dev data true ⟨link, s⟩ := by
  have hsend : writeMessage dev data ⟨link, s⟩ = sendPieces dev (link.piecesOf data) ⟨link, s⟩ := rfl
  rw [hsend, piecesOf_ieeeBlock hp, sendPieces]

/-- On a device of any behaviour, a link of the block profile writes data of any length by one transfer,
whatever its limit on transfers is. The write succeeds exactly if the device takes the transfer, which is
then all that has been sent. The envelope in it has the next tag, ends the message and gives the length
modulo `2 ^ 32`, and the data follow it with fewer than four zero bytes after them. The transfer is read
as the message if and only if there are fewer than `2 ^ 32` bytes. -/
theorem writeMessage_unsplit (dev : Device σ) {link : Link} (hp : link.profile = .ieeeBlock)
    (data : List UInt8) (s : σ) (log : List Event) :
    ∃ transfer envelope,
      (∀ c', writeMessage dev.recorded data ⟨link, (s, log)⟩ = (.ok (), c') ↔
        ∃ count t, dev.Trace s [link.counted transfer count] t ∧
          c' = ⟨{ link with tags := link.tags.next }, (t, log ++ [link.counted transfer count])⟩) ∧
      Envelope.parse transfer .dataOut = .ok envelope ∧
      envelope.tag = link.tags.next.current ∧ envelope.endOfMessage = true ∧
      envelope.size.toNat = data.length % 2 ^ 32 ∧
      (∃ k < 4, transfer.drop headerSize = data ++ List.replicate k 0) ∧
      ((∃ fragment, Frames data transfer fragment) ↔ data.length < 2 ^ 32) := by
  refine ⟨(Fragment.ofPiece link.tags.next.current data true).transfer, _, fun c' => ?_,
    Fragment.parse_transfer rfl, rfl, rfl, UInt32.toNat_ofNat', ?_, exists_frames_iff _ data⟩
  · rw [writeMessage_ieeeBlock_apply hp]
    constructor
    · intro hsent
      obtain ⟨count, ht, hlink⟩ := exists_count_of_sendPiece hsent
      exact ⟨count, c'.device.1, ht.of_recorded, by rw [← hlink, ← ht.log_eq]⟩
    · rintro ⟨count, t, ht, rfl⟩
      obtain ⟨u, hu, rfl⟩ := ht.recorded log
      exact sendPiece_of_accepted hu
  · rw [Fragment.drop_transfer]
    exact ⟨_, by omega, rfl⟩

/-! ## An instrument that takes every transfer -/

/-- A device that takes every transfer is sent data of any length in one envelope. -/
theorem exists_writeMessage_of_accepts {link : Link} (hp : link.profile = .ieeeBlock) {ready : σ → Prop}
    (ha : dev.Accepts link.endpoints.bulkOut ready) {s : σ} (hs : ready s) (data : List UInt8) :
    ∃ c', writeMessage dev.recorded data ⟨link, (s, [])⟩ = (.ok (), c') ∧
      c'.device.2.filterMap Event.sent? =
        [(Fragment.ofPiece link.tags.next.current data true).transfer] := by
  obtain ⟨count, t, ht, -⟩ := ha s hs
    (Fragment.ofPiece link.tags.next.current data true).transfer link.timing.timeout
  have hrecorded : dev.recorded.perform (.bulkOut link.endpoints.bulkOut
      (Fragment.ofPiece link.tags.next.current data true).transfer link.timing.timeout) (s, []) =
        (.ok count, (t, [] ++ [link.counted
          (Fragment.ofPiece link.tags.next.current data true).transfer count])) := by
    simp only [Device.recorded, ht, counted]
  exact ⟨_, (writeMessage_ieeeBlock_apply hp data _).trans (sendPiece_of_accepted hrecorded), rfl⟩

/-- A session with an instrument of the block profile that takes every transfer. The settings have a limit
of four bytes. -/
def openedBlock : Bench ScriptedBus :=
  let info : DeviceInfo := ⟨0x1AB1, 1, none, "mock", 1, []⟩
  (Session.run ScriptedBus.behaviour [.openUp]
    ⟨{ resource := .attached info, settings := { maxTransferSize := 4 } },
      { devices := [(info, .plain)] }⟩).2

/-- Six bytes are sent in one envelope. -/
theorem writeMessage_unsplit_openedBlock :
    ∃ opened, openedBlock.session.opened = some opened ∧ opened.link.profile = .ieeeBlock ∧
      opened.link.maxTransferSize = 4 ∧
      ∃ transfer c', writeMessage (ScriptedBus.device opened.handle).recorded [1, 2, 3, 4, 5, 6]
          ⟨opened.link, (openedBlock.bus, [])⟩ = (.ok (), c') ∧
        c'.device.2.filterMap Event.sent? = [transfer] ∧
        ∃ fragment, Frames [1, 2, 3, 4, 5, 6] transfer fragment := by
  let opened := openedBlock.session.opened.get rfl
  have hp : opened.link.profile = .ieeeBlock := rfl
  obtain ⟨transfer, envelope, hwrite, -, -, -, -, -, hframes⟩ :=
    writeMessage_unsplit (ScriptedBus.device opened.handle) hp [1, 2, 3, 4, 5, 6] openedBlock.bus []
  obtain ⟨count, t, ht, -⟩ := ScriptedBus.accepts_device opened.handle opened.link.endpoints.bulkOut
    openedBlock.bus ⟨_, _, rfl, nofun, rfl⟩ transfer opened.link.timing.timeout
  exact ⟨opened, (Option.some_get _).symm, hp, rfl, transfer, _,
    (hwrite _).2 ⟨count, t, ⟨t, ht, rfl⟩, rfl⟩, rfl, hframes.2 (by decide)⟩

/-- With `2 ^ 32` bytes, all zero, the write succeeds as well, by a transfer that is not read as the
message: its envelope gives the size 0. -/
theorem not_writeMessage_unsplit :
    ∃ opened, openedBlock.session.opened = some opened ∧ opened.link.profile = .ieeeBlock ∧
      ∃ transfer c', writeMessage (ScriptedBus.device opened.handle).recorded
          (List.replicate (2 ^ 32) 0) ⟨opened.link, (openedBlock.bus, [])⟩ = (.ok (), c') ∧
        c'.device.2.filterMap Event.sent? = [transfer] ∧
        (∃ fragment, Fragment.read transfer = .ok fragment ∧ fragment.envelope.size.toNat = 0 ∧
          fragment.payload = []) ∧
        ¬ ∃ fragment, Frames (List.replicate (2 ^ 32) 0) transfer fragment := by
  let opened := openedBlock.session.opened.get rfl
  have hp : opened.link.profile = .ieeeBlock := rfl
  -- The list itself is never looked into.
  obtain ⟨data, hdata⟩ : ∃ data : List UInt8, data = List.replicate (2 ^ 32) 0 := ⟨_, rfl⟩
  have hlength : data.length = 2 ^ 32 := by rw [hdata, List.length_replicate]
  rw [← hdata]
  obtain ⟨c', hwrite, hsent⟩ := exists_writeMessage_of_accepts hp
    (ScriptedBus.accepts_device opened.handle opened.link.endpoints.bulkOut) (s := openedBlock.bus)
    ⟨_, _, rfl, nofun, rfl⟩ data
  refine ⟨opened, (Option.some_get _).symm, hp, _, c', hwrite, hsent,
    ⟨_, Fragment.read_transfer_ofPiece _ data true, ?_, ?_⟩, ?_⟩
  · rw [UInt32.toNat_ofNat', hlength, Nat.mod_self]
  · rw [hlength, Nat.mod_self, List.take_zero]
  · rw [exists_frames_iff, hlength]
    exact Nat.lt_irrefl _

end Link

end Benchtop
