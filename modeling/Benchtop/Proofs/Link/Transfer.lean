import Benchtop.Link.Message
import Benchtop.Proofs.Action

/-!
# One transfer

What a single bulk transfer of a link does: a transfer that the device answers has no further
effect, one that fails is followed by recovery if it timed out and by nothing otherwise.
-/

namespace Benchtop.Link

open Usb Wire

variable {σ : Type} {dev : Device σ}

/-- What a bulk OUT transfer does. -/
theorem send_apply (tag : UInt8) (bytes : List UInt8) (c : Connection σ) :
    send dev tag bytes c =
      match attempt dev (.bulkOut c.link.endpoints.bulkOut bytes c.link.timing.timeout) c with
      | (.ok _, c) => (.ok (), c)
      | (.error e, c) => (.error (.bus e), if e.isTimeout then (abortOut dev tag c).2 else c) := by
  rw [send, get_bind_apply, lift_bind_apply]
  rcases attempt dev (.bulkOut c.link.endpoints.bulkOut bytes c.link.timing.timeout) c with
    ⟨e | _, c⟩
  · cases he : e.isTimeout <;> simp [he] <;> rfl
  · rfl

/-- What a bulk IN transfer does. -/
theorem receive_apply (tag : UInt8) (c : Connection σ) :
    receive dev tag c =
      match attempt dev (.bulkIn c.link.endpoints.bulkIn
        (c.link.maxTransferSize.toNat + headerSize + 3) c.link.timing.timeout) c with
      | (.ok data, c) => (.ok data, c)
      | (.error e, c) => (.error (.bus e), if e.isTimeout then (abortIn dev tag c).2 else c) := by
  rw [receive, get_bind_apply, lift_bind_apply]
  rcases attempt dev (.bulkIn c.link.endpoints.bulkIn
    (c.link.maxTransferSize.toNat + headerSize + 3) c.link.timing.timeout) c with ⟨e | _, c⟩
  · cases he : e.isTimeout <;> simp [he] <;> rfl
  · rfl

theorem nextTag_apply (c : Connection σ) :
    nextTag c = (.ok c.link.tags.next.current, { c with link.tags := c.link.tags.next }) := rfl

theorem nextStatusTag_apply (c : Connection σ) :
    nextStatusTag c =
      (.ok c.link.statusTags.next.current, { c with link.statusTags := c.link.statusTags.next }) :=
  rfl

/-- A transfer that the device accepts. -/
theorem send_of_ok {link : Link} {tag : UInt8} {bytes : List UInt8} {n : Nat} {s t : σ}
    (h : dev.perform (.bulkOut link.endpoints.bulkOut bytes link.timing.timeout) s = (.ok n, t)) :
    send dev tag bytes ⟨link, s⟩ = (.ok (), ⟨link, t⟩) := by
  rw [send_apply, attempt, h]

/-- A transfer that the device does not accept. -/
theorem send_of_error {link : Link} {tag : UInt8} {bytes : List UInt8} {e : BusError} {s t : σ}
    (h : dev.perform (.bulkOut link.endpoints.bulkOut bytes link.timing.timeout) s = (.error e, t)) :
    send dev tag bytes ⟨link, s⟩ =
      (.error (.bus e), if e.isTimeout then (abortOut dev tag ⟨link, t⟩).2 else ⟨link, t⟩) := by
  rw [send_apply, attempt, h]

/-- A transfer that the device answers. -/
theorem receive_of_ok {link : Link} {tag : UInt8} {data : List UInt8} {s t : σ}
    (h : dev.perform (.bulkIn link.endpoints.bulkIn (link.maxTransferSize.toNat + headerSize + 3)
      link.timing.timeout) s = (.ok data, t)) :
    receive dev tag ⟨link, s⟩ = (.ok data, ⟨link, t⟩) := by
  rw [receive_apply, attempt, h]

/-- A transfer that the device does not answer. -/
theorem receive_of_error {link : Link} {tag : UInt8} {e : BusError} {s t : σ}
    (h : dev.perform (.bulkIn link.endpoints.bulkIn (link.maxTransferSize.toNat + headerSize + 3)
      link.timing.timeout) s = (.error e, t)) :
    receive dev tag ⟨link, s⟩ =
      (.error (.bus e), if e.isTimeout then (abortIn dev tag ⟨link, t⟩).2 else ⟨link, t⟩) := by
  rw [receive_apply, attempt, h]

end Benchtop.Link
