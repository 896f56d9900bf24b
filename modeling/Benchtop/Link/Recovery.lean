import Benchtop.Link.Basic

/-!
# Polling and recovery

A clear and the abort of a transfer have one shape: a request starts the procedure, and a second
one is repeated until the device no longer answers that it is still at work (`pollStatus`). Between
polls the device may say that it has data to be rid of, and one transfer is read and dropped.

A transfer that times out is aborted once. Whatever goes wrong in the abort is left at that: the
operation reports the timeout.
-/

namespace Benchtop.Link

open Usb Wire

variable {σ : Type}

/-- Repeats a request, at most `polls` times, until its answer is not "pending", and gives that
answer. `onPending` runs after every pending one. -/
def pollStatus (dev : Device σ) (procedure : Procedure) (setup : Setup) (length : UInt16)
    (onPending : List UInt8 → StateM (Connection σ) Unit) : (polls : Nat) → Exchange σ (List UInt8)
  | 0 => do throw (.unfinished procedure (← get).link.timing.maxPolls)
  | polls + 1 => do
    let answer ← call dev (.controlIn setup length (← get).link.timing.abortTimeout)
    let status ← MonadExcept.ofExcept (statusOf procedure.name answer)
    if status = .pending then
      onPending answer
      pollStatus dev procedure setup length onPending polls
    else
      return answer

/-- Reads one transfer of an aborted or cleared message and drops it. -/
def drain (dev : Device σ) : StateM (Connection σ) Unit := do
  let link := (← get).link
  let maxLength := link.maxTransferSize.toNat + headerSize
  let _ ← attempt dev (.bulkIn link.endpoints.bulkIn maxLength link.timing.abortTimeout)

/-- Drains if the second byte of a pending answer says that the device has data for the host. -/
def drainIfAsked (dev : Device σ) : List UInt8 → StateM (Connection σ) Unit
  | _ :: flags :: _ => if hasBit flags 1 then drain dev else pure ()
  | _ => pure ()

/-- Starts the abort of the transfer `tag` and polls until it is over. Gives whether it came to an
end, successful or not. -/
def abortTransfer (dev : Device σ) (procedure : Procedure) (initiate check : Request)
    (endpoint tag : UInt8) (onPending : List UInt8 → StateM (Connection σ) Unit) :
    StateM (Connection σ) Bool := do
  let timing := (← get).link.timing
  let setup := Setup.toEndpoint initiate.code tag.toUInt16 endpoint
  match ← attempt dev (.controlIn setup 2 timing.abortTimeout) with
  | .error _ => return false
  | .ok answer =>
    match statusOf procedure.name answer with
    | .ok .success =>
      let setup := Setup.toEndpoint check.code 0 endpoint
      let outcome ← Action.outcome (pollStatus dev procedure setup 8 onPending timing.maxPolls)
      return outcome.isOk
    | _ => return false

/-- Aborts the bulk OUT transfer `tag` and, once the abort has come to an end, clears the halt of
the endpoint. -/
def abortOut (dev : Device σ) (tag : UInt8) : StateM (Connection σ) Unit := do
  let endpoint := (← get).link.endpoints.bulkOut
  let finished ← abortTransfer dev .abortOut .initiateAbortOut .checkAbortOut endpoint tag
    fun _ => pure ()
  if finished then
    let _ ← attempt dev (.clearHalt endpoint)

/-- Aborts the bulk IN transfer `tag`, draining the endpoint while the device asks for it. -/
def abortIn (dev : Device σ) (tag : UInt8) : StateM (Connection σ) Unit := do
  let endpoint := (← get).link.endpoints.bulkIn
  let _ ← abortTransfer dev .abortIn .initiateAbortIn .checkAbortIn endpoint tag
    (drainIfAsked dev)

end Benchtop.Link
