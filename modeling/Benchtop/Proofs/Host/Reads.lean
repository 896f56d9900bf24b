import Benchtop.Proofs.Host.Endpoints
import Mathlib.Algebra.Order.Floor.Div
import Mathlib.Order.Bounds.Basic

/-!
# What a read of an opened device gives

A transfer from an IN endpoint is posted for whole packets, so it may be for more than the caller's limit.
What comes is handed on as it is: all that the host has received, also what goes beyond the limit.

Main statement: a read succeeds exactly if the host completes its transfer, and what it gives is all of
what was received (`perform_reads`). That is at most the least whole number of packets that reaches the
limit, so the limit is kept where it is such a number, and a device may well break it where it is not
(`not_perform_reads_atMost`).
-/

namespace Benchtop

open Usb Host

namespace Host

/-- The whole packets of a limit are the least that reach it, but at least one. -/
theorem isLeast_wholePackets (limit : Nat) {packet : Nat} (hpacket : 0 < packet) :
    IsLeast {n | limit ≤ n ∧ 0 < n ∧ packet ∣ n} (wholePackets limit packet) := by
  have heq : wholePackets limit packet = packet * (max limit 1 ⌈/⌉ packet) := by
    have hmax : max packet 1 = packet := max_eq_left hpacket
    rw [Nat.ceilDiv_eq_add_pred_div, Nat.mul_comm, wholePackets, hmax]
  have hreach : max limit 1 ≤ packet * (max limit 1 ⌈/⌉ packet) := le_smul_ceilDiv hpacket
  rw [heq]
  refine ⟨⟨(le_max_left _ _).trans hreach, (le_max_right _ _).trans hreach, Nat.dvd_mul_right _ _⟩, ?_⟩
  rintro _ ⟨hlimit, hpos, k, rfl⟩
  exact Nat.mul_le_mul_left packet ((ceilDiv_le_iff_le_mul hpacket).2 (max_le hlimit hpos))

/-- A read of an endpoint, on a transfer that the host has completed. -/
structure Received (slot : Slot) (address : UInt8) (limit : Nat) (timeout : Duration) (s : Seat)
    (e : OpenEndpoint) (data : List UInt8) (s' : Seat) : Prop where
  /-- The endpoint is the one of the address: open before, or opened for the read. -/
  address_eq : e.address = address
  /-- The transfer is posted for whole packets, and the bytes are all that the endpoint has sent for it. -/
  taken : ∃ host, endpointFor slot address s = (.ok e, ⟨s'.opened, host⟩) ∧
    (host.logged (.transferIn address (wholePackets limit e.maxPacketSize) timeout)).takeIn
      (host.placeOf e.claim) address = some (.ok data, s'.host)
  length_le : data.length ≤ wholePackets limit e.maxPacketSize
  least : IsLeast {n | limit ≤ n ∧ 0 < n ∧ e.maxPacketSize ∣ n} (wholePackets limit e.maxPacketSize)
  /-- A limit that is a whole number of packets itself is kept. -/
  length_le_of_dvd : 0 < limit → e.maxPacketSize ∣ limit → data.length ≤ limit

/-- A transfer gives what the endpoint has sent, if it is posted for whole packets and all of it fits. -/
theorem transferIn_eq_ok_iff {e : OpenEndpoint} {length : Nat} {timeout : Duration} {h h' : Host}
    {data : List UInt8} :
    transferIn e length timeout h = (.ok data, h') ↔
      (0 < length ∧ e.maxPacketSize ∣ length) ∧ data.length ≤ length ∧
        (h.logged (.transferIn e.address length timeout)).takeIn (h.placeOf e.claim) e.address =
          some (.ok data, h') := by
  have hposted : ¬(length = 0 ∨ length % e.maxPacketSize ≠ 0) ↔ 0 < length ∧ e.maxPacketSize ∣ length := by
    rw [not_or, not_not, ← Nat.dvd_iff_mod_eq_zero, ← ne_eq, ← Nat.pos_iff_ne_zero]
  have hplace : (h.logged (.transferIn e.address length timeout)).placeOf e.claim =
      h.placeOf e.claim := rfl
  rw [← hposted, transferIn, hplace]
  constructor
  · intro htransfer
    split at htransfer
    · cases htransfer
    · next hnot =>
      refine ⟨hnot, ?_⟩
      split at htransfer
      · cases htransfer
      · cases htransfer
      · next received next htaken =>
        split at htransfer
        · cases htransfer
        · next hfits =>
          cases htransfer
          exact ⟨Nat.not_lt.1 hfits, htaken⟩
  · rintro ⟨hnot, hfits, htaken⟩
    rw [if_neg hnot, htaken]
    dsimp only
    rw [if_neg (Nat.not_lt.2 hfits)]

theorem carry_eq_ok_iff {α : Type} {endpoint : UInt8} {timeout : Duration} {transfer : Transfer α}
    {s s' : Seat} {a : α} :
    carry endpoint timeout transfer s = (.ok a, s') ↔
      transfer s.host = (.ok a, s'.host) ∧ s'.opened = s.opened := by
  rw [carry]
  rcases transfer s.host with ⟨_ | a', host⟩
  · exact ⟨nofun, nofun⟩
  · constructor
    · intro h
      cases h
      exact ⟨rfl, rfl⟩
    · rintro ⟨h, hopened⟩
      cases h
      rw [← hopened]
      rfl

theorem Finding.address_eq {slot : Slot} {address : UInt8} {s : Seat}
    {found : Except BusError OpenEndpoint × Seat} (h : Finding slot address s found) {e : OpenEndpoint}
    (hok : found.1 = .ok e) : e.address = address := by
  cases h with
  | kept _ he =>
    cases hok
    exact he
  | unclaimed => cases hok
  | unopened => cases hok
  | opened _ _ he =>
    cases hok
    exact he

theorem readFrom_eq_ok_iff (slot : Slot) (address : UInt8) (limit : Nat) (timeout : Duration) (s : Seat)
    (data : List UInt8) (s' : Seat) :
    readFrom slot address limit timeout s = (.ok data, s') ↔
      ∃ e, Received slot address limit timeout s e data s' := by
  constructor
  · intro hread
    obtain ⟨e, ⟨opened, host⟩, hfound, hcarried⟩ := exists_of_bind_eq_ok hread
    obtain ⟨htransfer, rfl⟩ : _ ∧ s'.opened = opened := carry_eq_ok_iff.1 hcarried
    obtain ⟨⟨hpos, hdvd⟩, hlength, htaken⟩ := transferIn_eq_ok_iff.1 htransfer
    have haddress : e.address = address :=
      (finding_endpointFor slot address s).address_eq (congrArg Prod.fst hfound)
    have hpacket : 0 < e.maxPacketSize := Nat.pos_of_dvd_of_pos hdvd hpos
    have hleast := isLeast_wholePackets limit hpacket
    rw [haddress] at htaken
    exact ⟨e, haddress, ⟨host, hfound, htaken⟩, hlength, hleast,
      fun hlimit hpackets => hlength.trans (hleast.2 ⟨le_rfl, hlimit, hpackets⟩)⟩
  · rintro ⟨e, haddress, ⟨host, hfound, htaken⟩, hlength, hleast, -⟩
    refine (bind_of_ok hfound).trans (carry_eq_ok_iff.2 ⟨?_, rfl⟩)
    rw [← haddress] at htaken
    exact transferIn_eq_ok_iff.2 ⟨hleast.1.2, hlength, htaken⟩

/-- Whatever state the device and the host are in, a read of a bulk or of an interrupt endpoint gives some
bytes exactly if the host completes its transfer with them. So all that is received is given, and it is held
by the whole packets of the limit, not by the limit. -/
theorem perform_reads (endpoint : UInt8) (limit : Nat) (timeout : Duration) (s : Seat) (data : List UInt8)
    (s' : Seat) :
    (perform (.bulkIn endpoint limit timeout) s = (.ok data, s') ↔
        ∃ e, Received .bulkIn endpoint limit timeout s e data s') ∧
      (perform (.interruptIn endpoint limit timeout) s = (.ok data, s') ↔
        ∃ e, Received .interruptIn endpoint limit timeout s e data s') :=
  ⟨readFrom_eq_ok_iff .bulkIn endpoint limit timeout s data s',
    readFrom_eq_ok_iff .interruptIn endpoint limit timeout s data s'⟩

/-- An instrument with packets of 64 bytes, which has ten bytes to send. -/
def generousPeripheral : Peripheral :=
  { Peripheral.plugged ⟨0x0957, 1, none, "1", 2, []⟩
      [⟨1, [⟨0, 0, 254, 3, 0, [⟨2, .bulk, .output, 64⟩, ⟨0x81, .bulk, .input, 64⟩]⟩]⟩] with
    inQueue := [(0x81, .ok [65, 66, 67, 68, 69, 70, 71, 72, 73, 74])] }

/-- A device that has been opened, with its interface claimed, is asked for one byte and gives ten. -/
theorem not_perform_reads_atMost :
    let s := (perform (.claim 0 0) ⟨{ place := 0 }, { peripherals := [generousPeripheral] }⟩).2
    (perform (.bulkIn 0x81 1 (.ofMillis 50)) s).1 = .ok [65, 66, 67, 68, 69, 70, 71, 72, 73, 74] ∧
      ¬ ∀ data, (perform (.bulkIn 0x81 1 (.ofMillis 50)) s).1 = .ok data → data.length ≤ 1 := by
  intro s
  have hread : (perform (.bulkIn 0x81 1 (.ofMillis 50)) s).1 =
      .ok [65, 66, 67, 68, 69, 70, 71, 72, 73, 74] := rfl
  exact ⟨hread, fun hall => absurd (hall _ hread) (by decide)⟩

end Host

end Benchtop
