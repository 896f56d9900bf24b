import Benchtop.Scripted.Device

/-!
# What a call changes of a scripted device

A call that the script answers changes the part of the script that it takes the answer from, and
leaves the rest of the device as it is. A queue of bulk IN transfers is only ever taken from.
-/

namespace Benchtop.ScriptedDevice

open Usb Wire Scripted

theorem exists_answerControl (d : ScriptedDevice) (request : UInt8) (timeout : Duration) :
    ∃ controlQueue, (d.answerControl request timeout).2 = { d with controlQueue } := by
  unfold answerControl
  split
  · exact ⟨_, rfl⟩
  · split <;> exact ⟨d.controlQueue, rfl⟩

theorem exists_acceptBulkOut (d : ScriptedDevice) (data : List UInt8) :
    ∃ bulkOutErrors requestTag,
      (d.acceptBulkOut data).2 = { d with bulkOutErrors, requestTag } := by
  unfold acceptBulkOut
  split
  · exact ⟨d.bulkOutErrors, d.requestTag, rfl⟩
  · split
    · exact ⟨_, d.requestTag, rfl⟩
    · -- Only a request for data has a tag to be noted.
      split
      · split
        · exact ⟨d.bulkOutErrors, _, rfl⟩
        · exact ⟨d.bulkOutErrors, d.requestTag, rfl⟩
      · exact ⟨d.bulkOutErrors, d.requestTag, rfl⟩

theorem exists_nextBulkIn (d : ScriptedDevice) (timeout : Duration) :
    ∃ bulkInQueue, bulkInQueue <:+ d.bulkInQueue ∧
      (d.nextBulkIn timeout).2 = { d with bulkInQueue } := by
  unfold nextBulkIn
  split
  · exact ⟨d.bulkInQueue, List.suffix_refl _, rfl⟩
  · split
    · exact ⟨d.bulkInQueue, List.suffix_refl _, rfl⟩
    · next reply rest hq =>
      refine ⟨rest, ?_, ?_⟩
      · rw [hq]
        exact List.suffix_cons reply rest
      · cases reply <;> rfl

theorem exists_nextInterrupt (d : ScriptedDevice) (timeout : Duration) :
    ∃ interruptQueue, (d.nextInterrupt timeout).2 = { d with interruptQueue } := by
  unfold nextInterrupt
  split
  · exact ⟨d.interruptQueue, rfl⟩
  · split
    · exact ⟨d.interruptQueue, rfl⟩
    · exact ⟨_, rfl⟩

theorem exists_acceptClaim (d : ScriptedDevice) (interface : UInt8) :
    ∃ claimed claimError, (d.acceptClaim interface).2 = { d with claimed, claimError } := by
  unfold acceptClaim
  split
  · exact ⟨d.claimed, none, rfl⟩
  · split
    · exact ⟨d.claimed, d.claimError, rfl⟩
    · exact ⟨some interface, d.claimError, rfl⟩

end Benchtop.ScriptedDevice
