import Benchtop.Host.Bus
import Benchtop.Proofs.Link.Writing
import Benchtop.Session

/-!
# Counts of a write

A bulk OUT transfer that does not fail is answered by a count: how many of its bytes have been taken.
Nothing is made of the count. A write succeeds exactly if each of its transfers has one, whatever the
counts are (`writeMessage_counts`), so a device may be short of bytes of a message that was written with
success.
-/

namespace Benchtop

open Usb Wire

/-- How many bytes a bulk OUT transfer holds, and how many of them have been taken. -/
def Usb.Event.count? : Event → Option (Nat × Nat)
  | ⟨.bulkOut _ bytes _, .ok count⟩ => some (bytes.length, count)
  | _ => none

namespace Link

variable {σ : Type} {dev : Device σ}

/-! ## The transfers of a message -/

/-- The pieces that a message is written in. -/
def piecesOf (link : Link) (data : List UInt8) : List (List UInt8) :=
  if link.profile.splitsMessages then pieces link.maxTransferSize.toNat data else [data]

/-- The fragments that a message is written in. -/
def fragmentsOf (link : Link) (data : List UInt8) : List Fragment :=
  fragments link.tags (link.piecesOf data)

/-- A bulk OUT transfer of which `count` bytes have been taken. -/
def counted (link : Link) (transfer : List UInt8) (count : Nat) : Event where
  call := .bulkOut link.endpoints.bulkOut transfer link.timing.timeout
  answer := .ok count

/-- The transfers of these fragments, each with its count. -/
def countedAll (link : Link) (fragments : List Fragment) (counts : List Nat) : List Event :=
  List.zipWith (fun fragment => link.counted fragment.transfer) fragments counts

/-- No byte is lost in pieces of any size. -/
theorem flatten_pieces (size : Nat) (data : List UInt8) : (pieces size data).flatten = data := by
  fun_induction pieces size data with
  | case1 data h => simp
  | case2 data h ih => rw [List.flatten_cons, ih, List.take_append_drop]

theorem flatten_payload_fragmentsOf (link : Link) (data : List UInt8) :
    ((link.fragmentsOf data).map (·.payload)).flatten = data := by
  rw [fragmentsOf, map_payload_fragments, piecesOf]
  split
  · exact flatten_pieces _ data
  · simp

theorem accepted_countedAll (link : Link) {fragments : List Fragment} {counts : List Nat}
    (h : counts.length = fragments.length) :
    link.Accepted (fragments.map (·.transfer)) (link.countedAll fragments counts) := by
  induction fragments generalizing counts with
  | nil => exact .nil
  | cons fragment fragments ih =>
    cases counts with
    | nil => cases h
    | cons count counts => exact .cons ⟨count, rfl⟩ (ih (Nat.succ.inj h))

/-! ## Transfers that succeed -/

theorem exists_count_of_send {tag : UInt8} {bytes : List UInt8} {c c' : Connection σ}
    (h : send dev tag bytes c = (.ok (), c')) :
    ∃ count, dev.Trace c.device [c.link.counted bytes count] c'.device ∧ c'.link = c.link := by
  rw [send_apply, attempt] at h
  rcases hsent : dev.perform (.bulkOut c.link.endpoints.bulkOut bytes c.link.timing.timeout) c.device
    with ⟨e | count, t⟩ <;> rw [hsent] at h
  · cases h
  · cases h
    exact ⟨count, ⟨t, hsent, rfl⟩, rfl⟩

theorem exists_count_of_sendPiece {piece : List UInt8} {isLast : Bool} {c c' : Connection σ}
    (h : sendPiece dev piece isLast c = (.ok (), c')) :
    ∃ count, dev.Trace c.device
        [c.link.counted (Fragment.ofPiece c.link.tags.next.current piece isLast).transfer count]
        c'.device ∧
      c'.link = { c.link with tags := c.link.tags.next } := by
  rw [sendPiece, bind_of_ok (nextTag_apply c)] at h
  exact exists_count_of_send h

/-- Where all pieces have been sent, every transfer has its count. -/
theorem exists_counts_of_sendPieces {ps : List (List UInt8)} {c c' : Connection σ}
    (h : sendPieces dev ps c = (.ok (), c')) :
    ∃ counts : List Nat, counts.length = ps.length ∧
      dev.Trace c.device (c.link.countedAll (fragments c.link.tags ps) counts) c'.device ∧
      c'.link = { c.link with tags := TagCounter.next^[ps.length] c.link.tags } := by
  induction ps generalizing c with
  | nil =>
    cases h
    exact ⟨[], rfl, rfl, rfl⟩
  | cons piece rest ih =>
    cases rest with
    | nil =>
      obtain ⟨count, ht, hlink⟩ := exists_count_of_sendPiece h
      exact ⟨[count], rfl, ht, hlink⟩
    | cons next rest =>
      obtain ⟨_, d, hpiece, hrest⟩ := exists_of_bind_eq_ok h
      obtain ⟨count, ht, hd⟩ := exists_count_of_sendPiece hpiece
      obtain ⟨counts, hlength, hcounts, hlink⟩ := ih hrest
      rw [hd] at hcounts hlink
      exact ⟨count :: counts, congrArg (· + 1) hlength, ht.append hcounts, hlink⟩

/-! ## Messages -/

/-- On a device of any behaviour, a message is written with success exactly if each of its transfers, which
bear all of its bytes, is answered by a count. All counts will do. -/
theorem writeMessage_counts (dev : Device σ) (link : Link) (data : List UInt8) (s : σ)
    (log : List Event) :
    ((link.fragmentsOf data).map (·.payload)).flatten = data ∧
    ∀ c', writeMessage dev.recorded data ⟨link, (s, log)⟩ = (.ok (), c') ↔
      ∃ (counts : List Nat) (t : σ), counts.length = (link.fragmentsOf data).length ∧
        dev.Trace s (link.countedAll (link.fragmentsOf data) counts) t ∧
        c' = ⟨{ link with tags := TagCounter.next^[counts.length] link.tags },
          (t, log ++ link.countedAll (link.fragmentsOf data) counts)⟩ := by
  have hsend : writeMessage dev.recorded data ⟨link, (s, log)⟩ =
      sendPieces dev.recorded (link.piecesOf data) ⟨link, (s, log)⟩ := rfl
  refine ⟨flatten_payload_fragmentsOf link data, fun c' => ?_⟩
  rw [hsend]
  constructor
  · intro h
    obtain ⟨counts, hlength, ht, hlink⟩ := exists_counts_of_sendPieces h
    have hdevice : c'.device = (c'.device.1, log ++ link.countedAll (link.fragmentsOf data) counts) :=
      Prod.ext rfl ht.log_eq
    refine ⟨counts, c'.device.1, ?_, ht.of_recorded, ?_⟩
    · rw [hlength, fragmentsOf, length_fragments]
    · rw [← hdevice, hlength, ← hlink]
  · rintro ⟨counts, t, hlength, ht, rfl⟩
    have haccepted := accepted_countedAll link hlength
    rw [sendPieces_of_trace haccepted (ht.recorded log), hlength, fragmentsOf, length_fragments]

/-! ## A host that takes less than it is given -/

/-- An instrument that takes five bytes of the first transfer. -/
def shortPeripheral : Host.Peripheral :=
  let endpoints : List Endpoint := [⟨2, .bulk, .output, 64⟩, ⟨129, .bulk, .input, 64⟩]
  { Host.Peripheral.plugged ⟨0x0957, 1, none, "1", 2, []⟩ [⟨1, [⟨0, 0, 254, 3, 0, endpoints⟩]⟩] with
    controlDefaults := [(Request.getCapabilities.code, 1 :: 0 :: 0 :: 1 :: List.replicate 20 0)]
    outQueue := [(2, .ok 5)] }

/-- A session that has been opened with this instrument. -/
def openedShort : Bench HostBus :=
  (Session.run HostBus.behaviour [.openUp]
    ⟨{ resource := .attached shortPeripheral.info, settings := {} },
      { host := { peripherals := [shortPeripheral] } }⟩).2

/-- A write succeeds of which the device has taken five bytes out of sixteen. -/
theorem not_writeMessage_takenWhole :
    ∃ opened, openedShort.session.opened = some opened ∧
      let written := writeMessage (HostBus.device opened.handle).recorded [1, 2, 3, 4]
        ⟨opened.link, (openedShort.bus, [])⟩
      written.1 = .ok () ∧ written.2.device.2.filterMap Event.count? = [(16, 5)] ∧
        ¬ ∀ count ∈ written.2.device.2.filterMap Event.count?, count.2 = count.1 := by
  refine ⟨openedShort.session.opened.get (by decide +kernel), (Option.some_get _).symm, ?_⟩
  decide +kernel

end Link

end Benchtop
