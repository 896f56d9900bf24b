import Benchtop.Proofs.Link.HandingBack

/-!
# How long calls may take

A control request and a transfer are given the time that they may take. A link has two such times: one for
aborts and clears, with their polls and the transfers that they drain, and one for everything else
(`Usb.Call.InTime`).

Main statements: every call that a link asks is given the one of the two that is meant for it
(`Link.AsksFor.inTime`), and so are the calls by which it is handed back
(`Link.inTime_of_mem_handBackCalls`).
-/

namespace Benchtop

open Usb Wire

/-- The requests of aborts and clears. -/
def recoveryRequests : List Request :=
  [.initiateAbortOut, .checkAbortOut, .initiateAbortIn, .checkAbortIn, .initiateClear, .checkClear]

theorem code_not_mem_recoveryRequests {r : Request} (h : r ∉ recoveryRequests) :
    r.code ∉ recoveryRequests.map Request.code := by
  revert r
  rintro ⟨⟩ h <;> revert h <;> decide

namespace Usb.Call

/-- The time that a call is given, if it is one that takes time. -/
def timeout? : Call → Option Duration
  | .controlIn _ _ timeout => some timeout
  | .bulkOut _ _ timeout => some timeout
  | .bulkIn _ _ timeout => some timeout
  | .interruptIn _ _ timeout => some timeout
  | _ => none

/-- The call is part of an abort or a clear. A transfer is drained into `room` bytes, where those of a
message have room for padding as well. -/
def isRecovery (room : Nat) : Call → Bool
  | .controlIn setup _ _ => setup.request ∈ recoveryRequests.map Request.code
  | .bulkIn _ length _ => length == room
  | _ => false

/-- If the call takes time, it is given `abortTimeout` as part of an abort or a clear and `timeout`
otherwise. -/
def InTime (room : Nat) (timeout abortTimeout : Duration) (call : Call) : Prop :=
  ∀ given ∈ call.timeout?, given = if call.isRecovery room then abortTimeout else timeout

variable {room : Nat} {timeout abortTimeout : Duration} {call : Call}

theorem inTime_of_not_isTraffic (h : ¬ call.isTraffic) : call.InTime room timeout abortTimeout := by
  cases call with
  | setConfiguration | detachDriver | attachDriver | claim | release | clearHalt => exact nofun
  | controlIn | bulkOut | bulkIn | interruptIn => exact absurd rfl h

theorem inTime_request {r : Request} (hr : r ∉ recoveryRequests) {setup : Setup} {length : UInt16}
    (hsetup : setup.request = r.code) :
    (controlIn setup length timeout).InTime room timeout abortTimeout := by
  rintro _ ⟨⟩
  rw [isRecovery, hsetup, decide_eq_false (code_not_mem_recoveryRequests hr)]
  rfl

theorem inTime_recoveryRequest {r : Request} (hr : r ∈ recoveryRequests) {setup : Setup}
    {length : UInt16} (hsetup : setup.request = r.code) :
    (controlIn setup length abortTimeout).InTime room timeout abortTimeout := by
  rintro _ ⟨⟩
  rw [isRecovery, hsetup, decide_eq_true (List.mem_map_of_mem hr)]
  rfl

end Usb.Call

namespace Link

/-- The room for a transfer that is drained. -/
def drainRoom (link : Link) : Nat := link.maxTransferSize.toNat + headerSize

/-- The call is given the time that the link has for it. -/
def InTime (link : Link) (call : Call) : Prop :=
  call.InTime link.drainRoom link.timing.timeout link.timing.abortTimeout

theorem SameClaim.inTime {link other : Link} (h : link.SameClaim other) {call : Call}
    (hcall : other.InTime call) : link.InTime call := by
  rw [h] at hcall
  exact hcall

/-- What a link asks by an operation that is not made for the requests of recoveries is in time. -/
theorem AsksFor.inTime {wants : Request → Prop} (hwants : ∀ r, wants r → r ∉ recoveryRequests)
    {link : Link} {call : Call} (h : link.AsksFor wants call) : link.InTime call := by
  cases h with
  | capabilities => exact Call.inTime_request (show .getCapabilities ∉ _ by decide) rfl
  | request _ hr => exact Call.inTime_request (hwants _ hr) rfl
  | statusByte => exact Call.inTime_request (show .readStatusByte ∉ _ by decide) rfl
  | diagnosticId => exact Call.inTime_request (show .diagnosticId ∉ _ by decide) rfl
  | initiateClear => exact Call.inTime_recoveryRequest (show .initiateClear ∈ _ by decide) rfl
  | checkClear => exact Call.inTime_recoveryRequest (show .checkClear ∈ _ by decide) rfl
  | initiateAbort direction =>
    have hr : Link.initiateAbort direction ∈ recoveryRequests := by cases direction <;> decide
    exact Call.inTime_recoveryRequest hr rfl
  | checkAbort direction =>
    have hr : Link.checkAbort direction ∈ recoveryRequests := by cases direction <;> decide
    exact Call.inTime_recoveryRequest hr rfl
  | notification =>
    rintro _ ⟨⟩
    rfl
  | transfer =>
    rintro _ ⟨⟩
    rfl
  | receive =>
    rintro _ ⟨⟩
    rw [Call.isRecovery, drainRoom, if_neg (by simp)]
  | drain =>
    rintro _ ⟨⟩
    rw [Call.isRecovery, drainRoom, if_pos (by simp)]
  | clearHalt => exact nofun

theorem inTime_of_mem_handBackCalls {link : Link} : ∀ call ∈ link.handBackCalls, link.InTime call := by
  have hplain : ∀ r ∈ [Request.goToLocal, .remoteEnable, .frontPanelLock], r ∉ recoveryRequests := by
    decide
  exact forall_mem_handBackCalls (fun r hr => Call.inTime_request (hplain r hr) rfl)
    (Call.inTime_of_not_isTraffic Bool.false_ne_true) (Call.inTime_of_not_isTraffic Bool.false_ne_true)

end Link

end Benchtop
