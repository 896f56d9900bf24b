import Benchtop.Proofs.Link.Messages
import Benchtop.Proofs.Link.Moves
import Benchtop.Proofs.Link.Recovery

/-!
# The course of writing, reading and triggering

These operations make bulk transfers one after the other, up to the first that fails. If that one has
timed out, the calls after it are those of one proper abort, of this transfer and no other; otherwise
there are none. Either way the operation reports the failure of the transfer as it is (`Broken`).

The state in which an operation is at work is that every transfer so far has succeeded (`Flows`), and
while it awaits data also that the latest bulk OUT transfer was the request for them (`Asked`). Each part
of a message keeps it or ends the operation (`conveys_flows`), and so does each operation.
-/

namespace Benchtop.Link

open Usb Wire

variable {σ : Type} {dev : Device σ} {link : Link}

/-! ## What is recorded of an operation -/

/-- A call that is a bulk transfer of an operation, in this direction. -/
def IsTransfer (link : Link) : Direction → Call → Prop
  | .output, call => ∃ data, call = .bulkOut link.endpoints.bulkOut data link.timing.timeout
  | .input, call =>
    call = .bulkIn link.endpoints.bulkIn (link.maxTransferSize.toNat + headerSize + 3)
      link.timing.timeout

/-- A bulk transfer that succeeded. -/
def Succeeds (link : Link) (e : Event) : Prop :=
  (∃ direction, link.IsTransfer direction e.call) ∧ e.answer.isOk

/-- The latest bulk OUT transfer bears this tag. -/
def LatestTag (log : List Event) (tag : UInt8) : Prop :=
  ∃ transfer, (log.filterMap Event.sent?).getLast? = some transfer ∧ Bears tag transfer

/-- What is recorded of an operation whose transfer failed, and what it reports. -/
inductive Broken (link : Link) (limit : Nat) : List Event → Failure → Prop
  | timedOut {before : List Event} {direction : Direction} {call : Call} {error : BusError}
    {tag : UInt8} {abort : Abort} (hbefore : ∀ e ∈ before, link.Succeeds e)
    (hcall : link.IsTransfer direction call) (he : error.isTimeout)
    (htag : LatestTag (before ++ [⟨call, .error error⟩]) tag) (ha : abort.Proper limit direction) :
    Broken link limit (before ++ ⟨call, .error error⟩ :: abort.events link direction tag) (.bus error)
  | failed {before : List Event} {direction : Direction} {call : Call} {error : BusError}
    (hbefore : ∀ e ∈ before, link.Succeeds e) (hcall : link.IsTransfer direction call)
    (he : ¬ error.isTimeout) : Broken link limit (before ++ [⟨call, .error error⟩]) (.bus error)

/-- What is recorded of an operation, whether a transfer of it failed or not. -/
def Course {α : Type} (link : Link) (limit : Nat) (answer : Except Failure α) (log : List Event) :
    Prop :=
  (∀ e ∈ log, link.Succeeds e) ∨ ∃ failure, answer = .error failure ∧ Broken link limit log failure

/-! ## An operation at work -/

/-- No transfer has failed. -/
structure Flows (link : Link) (c : Connection (σ × List Event)) : Prop where
  sameOpening : link.SameOpening c.link
  succeeds : ∀ e ∈ c.device.2, link.Succeeds e

/-- No transfer has failed, and the latest bulk OUT transfer bears the tag. -/
structure Asked (link : Link) (tag : UInt8) (c : Connection (σ × List Event)) : Prop
    extends Flows link c where
  latestTag : LatestTag c.device.2 tag

/-- The operation has failed, because a transfer has or for another reason. -/
def Ends (link : Link) (failure : Failure) (c : Connection (σ × List Event)) : Prop :=
  Flows link c ∨ Broken link link.timing.maxPolls c.device.2 failure

theorem SameOpening.isTransfer {other : Link} (h : link.SameOpening other) {direction : Direction}
    {call : Call} (hcall : other.IsTransfer direction call) : link.IsTransfer direction call := by
  rw [h] at hcall
  exact hcall

theorem SameOpening.events_eq {other : Link} (h : link.SameOpening other) (direction : Direction)
    (tag : UInt8) (abort : Abort) :
    abort.events other direction tag = abort.events link direction tag := by
  rw [h]
  rfl

theorem SameOpening.timing_eq {other : Link} (h : link.SameOpening other) :
    other.timing = link.timing := by
  rw [h]

/-! ## Transfers -/

theorem ensures_nextTag {e : Failure → Connection (σ × List Event) → Prop} :
    Ensures (Flows link) nextTag (fun _ => Flows link) e :=
  fun _ hc => ⟨hc.sameOpening.trans rfl, hc.succeeds⟩

section

variable (hlimit : 0 < link.timing.maxPolls)

include hlimit

/-- A transfer that failed is followed by its recovery, which is an abort if it timed out. -/
theorem exists_recovery_of_error {direction : Direction} {call : Call} {error : BusError} {tag : UInt8}
    {c c' : Connection (σ × List Event)} (hsame : link.SameOpening c.link)
    (hmade : attempt dev.recorded call c = (.error error, c'))
    {recover : Connection (σ × List Event) → Connection (σ × List Event)}
    (hrecover : ∀ c : Connection (σ × List Event), 0 < c.link.timing.maxPolls →
      ∃ a : Abort, a.Proper c.link.timing.maxPolls direction ∧
        dev.recorded.Trace c.device (a.events c.link direction tag) (recover c).device) :
    ∃ recovery,
      (if error.isTimeout then recover c' else c').device.2 =
        c.device.2 ++ ⟨call, .error error⟩ :: recovery ∧
      if error.isTimeout then
        ∃ a : Abort, a.Proper link.timing.maxPolls direction ∧ recovery = a.events link direction tag
      else recovery = [] := by
  have hlog := (trace_attempt dev.recorded call c).log_eq
  have hlink : (attempt dev.recorded call c).2.link = c.link := rfl
  rw [hmade] at hlog hlink
  by_cases he : error.isTimeout
  · obtain ⟨a, ha, htrace⟩ := hrecover c' (by rwa [hlink, hsame.timing_eq])
    rw [hlink, hsame.events_eq] at htrace
    rw [hlink, hsame.timing_eq] at ha
    refine ⟨a.events link direction tag, ?_, ?_⟩
    · rw [if_pos he, htrace.log_eq, hlog, List.append_assoc]
      rfl
    · rw [if_pos he]
      exact ⟨a, ha, rfl⟩
  · refine ⟨[], ?_, ?_⟩
    · rw [if_neg he, hlog]
    · rw [if_neg he]

/-- A transfer succeeds, or it fails and the operation with it. -/
theorem asked_or_ends (tag : UInt8) {direction : Direction} {call : Call}
    {c : Connection (σ × List Event)} (hc : Flows link c) (hcall : link.IsTransfer direction call)
    (htag : ∀ answer, LatestTag (c.device.2 ++ [⟨call, answer⟩]) tag)
    {recover : Connection (σ × List Event) → Connection (σ × List Event)}
    (hrecover : ∀ c : Connection (σ × List Event), 0 < c.link.timing.maxPolls →
      ∃ a : Abort, a.Proper c.link.timing.maxPolls direction ∧
        dev.recorded.Trace c.device (a.events c.link direction tag) (recover c).device) :
    match attempt dev.recorded call c with
    | (.ok _, c) => Asked link tag c
    | (.error e, c) => Ends link (.bus e) (if e.isTimeout then recover c else c) := by
  have hlog := (trace_attempt dev.recorded call c).log_eq
  have hsame : link.SameOpening (attempt dev.recorded call c).2.link := hc.sameOpening
  rcases hmade : attempt dev.recorded call c with ⟨e | answer, c'⟩
  · obtain ⟨recovery, hrecorded, hrecovery⟩ :=
      exists_recovery_of_error hlimit hc.sameOpening hmade hrecover
    refine .inr ?_
    rw [hrecorded]
    by_cases he : e.isTimeout
    · rw [if_pos he] at hrecovery
      obtain ⟨a, ha, rfl⟩ := hrecovery
      exact .timedOut hc.succeeds hcall he (htag _) ha
    · rw [if_neg he] at hrecovery
      subst hrecovery
      exact .failed hc.succeeds hcall he
  · rw [hmade] at hlog hsame
    refine ⟨⟨hsame, fun e he => ?_⟩, hlog ▸ htag _⟩
    rw [hlog, List.mem_append, List.mem_singleton] at he
    rcases he with he | rfl
    · exact hc.succeeds e he
    · exact ⟨⟨direction, hcall⟩, rfl⟩

theorem ensures_send {tag : UInt8} {bytes : List UInt8} (hb : Bears tag bytes) :
    Ensures (Flows link) (send dev.recorded tag bytes) (fun _ => Asked link tag) (Ends link) := by
  intro c hc
  have hcall : link.IsTransfer .output
      (.bulkOut c.link.endpoints.bulkOut bytes c.link.timing.timeout) :=
    hc.sameOpening.isTransfer ⟨bytes, rfl⟩
  have hsent := asked_or_ends hlimit tag hc hcall
    (fun answer => ⟨bytes, by simp [Event.sent?], hb⟩)
    fun c => exists_trace_abortOut dev.recorded tag (c := c)
  rw [send_apply]
  generalize attempt dev.recorded _ c = sent at *
  rcases sent with ⟨e | n, c'⟩ <;> exact hsent

theorem ensures_receive (tag : UInt8) :
    Ensures (Asked link tag) (receive dev.recorded tag) (fun _ => Asked link tag) (Ends link) := by
  intro c hc
  have hcall : link.IsTransfer .input (.bulkIn c.link.endpoints.bulkIn
      (c.link.maxTransferSize.toNat + headerSize + 3) c.link.timing.timeout) :=
    hc.sameOpening.isTransfer rfl
  obtain ⟨transfer, hlast, hb⟩ := hc.latestTag
  have hreceived := asked_or_ends hlimit tag hc.toFlows hcall
    (fun answer => ⟨transfer, by simpa [Event.sent?] using hlast, hb⟩)
    fun c => exists_trace_abortIn dev.recorded tag (c := c)
  rw [receive_apply]
  generalize attempt dev.recorded _ c = received at *
  rcases received with ⟨e | data, c'⟩ <;> exact hreceived

/-- The parts of a message keep the transfers flowing, or end the operation. -/
theorem conveys_flows (dev : Device σ) : Conveys dev.recorded (Flows link) (Asked link) (Ends link) where
  nextTag := ensures_nextTag
  send := ensures_send hlimit
  receive := ensures_receive hlimit
  idle_of_asked := Asked.toFlows
  verdict _ hc := .inl hc
  endless hc _ := .inl hc

end

/-- The course of an operation that keeps the transfers flowing or ends. -/
theorem course_of_ensures {α : Type} {action : Exchange (σ × List Event) α}
    (h : Ensures (Flows link) action (fun _ => Flows link) (Ends link)) (s : σ) :
    let outcome := action ⟨link, (s, [])⟩
    Course link link.timing.maxPolls outcome.1 outcome.2.device.2 := by
  have hflows := h ⟨link, (s, [])⟩ ⟨rfl, by simp⟩
  dsimp only
  split at hflows
  · next hr =>
    rw [hr]
    exact .inl hflows.succeeds
  · next failure c hr =>
    rw [hr]
    exact hflows.imp Flows.succeeds fun hbroken => ⟨failure, rfl, hbroken⟩

end Benchtop.Link
