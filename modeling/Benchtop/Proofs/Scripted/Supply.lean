import Benchtop.Proofs.Scripted.Calls
import Benchtop.Scripted.Bus

/-!
# What a scripted device can still supply

The supply of a scripted device is bounded by the length of its queue of bulk IN transfers: nothing
but the script adds to the queue, and a transfer that succeeds has taken its first entry.
-/

namespace Benchtop

open Usb Scripted

namespace ScriptedDevice

/-- A call leaves a rest of the queue of bulk IN transfers. -/
theorem bulkInQueue_respond (c : Call) (d : ScriptedDevice) :
    (d.respond c).2.bulkInQueue <:+ d.bulkInQueue := by
  cases c with
  | setConfiguration | attachDriver | release | clearHalt => exact List.suffix_refl _
  | detachDriver =>
    rw [respond]
    split <;> exact List.suffix_refl _
  | claim interface alternate =>
    obtain ⟨_, _, h⟩ := exists_acceptClaim (d.logged (.claim interface alternate)) interface
    rw [respond, h]
    exact List.suffix_refl _
  | controlIn setup length timeout =>
    obtain ⟨_, h⟩ := exists_answerControl (d.logged (.controlIn setup length timeout)) setup.request
      timeout
    rw [respond, h]
    exact List.suffix_refl _
  | bulkOut endpoint data timeout =>
    obtain ⟨_, _, h⟩ := exists_acceptBulkOut (d.logged (.bulkOut endpoint data timeout)) data
    rw [respond, h]
    exact List.suffix_refl _
  | bulkIn endpoint maxLength timeout =>
    obtain ⟨_, hq, h⟩ := exists_nextBulkIn (d.logged (.bulkIn endpoint maxLength timeout)) timeout
    rw [respond, h]
    exact hq
  | interruptIn endpoint maxLength timeout =>
    obtain ⟨_, h⟩ := exists_nextInterrupt (d.logged (.interruptIn endpoint maxLength timeout)) timeout
    rw [respond, h]
    exact List.suffix_refl _

@[simp] theorem bulkInQueue_perform (c : Call) (d : ScriptedDevice) :
    (d.perform c).2.bulkInQueue = (d.respond c).2.bulkInQueue := by
  simp only [perform]
  split <;> rfl

/-- A transfer that succeeds makes the queue shorter. -/
theorem length_of_nextBulkIn {d : ScriptedDevice} {timeout : Duration} {data : List UInt8}
    (h : (d.nextBulkIn timeout).1 = .ok data) :
    (d.nextBulkIn timeout).2.bulkInQueue.length < d.bulkInQueue.length := by
  unfold nextBulkIn at h ⊢
  by_cases hc : d.claimed.isNone
  · simp [hc] at h
  · rw [if_neg hc] at h ⊢
    cases hq : d.bulkInQueue with
    | nil => simp [hq] at h
    | cons reply rest => cases reply <;> simp

end ScriptedDevice

/-- A scripted device can supply no more than is queued. -/
theorem ScriptedBus.bounded_device (place : Nat) :
    (ScriptedBus.device place).Bounded (queued place) where
  supply_le c bus := by
    simp only [device, queued]
    split
    next h => simp [h]
    next info d h =>
      obtain ⟨hlt, hd⟩ := List.getElem?_eq_some_iff.1 h
      simpa [hlt, hd] using (d.bulkInQueue_respond c).length_le
  supply_lt endpoint maxLength timeout bus data h := by
    simp only [device, queued] at h ⊢
    split at h
    · simp at h
    next info d hd =>
      obtain ⟨hlt, hd'⟩ := List.getElem?_eq_some_iff.1 hd
      have hsupply := ScriptedDevice.length_of_nextBulkIn h
      simp only [hd, Option.map_some, Option.getD_some, List.getElem?_set_self hlt]
      exact hsupply

end Benchtop
