import Benchtop.Proofs.Link.Course
import Benchtop.Proofs.Link.Ending
import Benchtop.Proofs.Scripted.Supply

/-!
# How long reading a message takes

Reading asks for data and receives transfers. The device drives both loops: it says how much is to come
and whether there is more after that. But a transfer that is received takes from what the device can
supply (`Device.Bounded`), and one without data ends the reading, so nothing that the device says makes
it go on for longer than the supply lasts.

Between envelopes the transfers received and the supply that is left do not exceed what there was at first,
and no more requests have been made than transfers received (`Fetching`). The transfer that fails, and it
alone, is beyond that.

Main statements: reading comes to an end. It makes at most one request and one transfer more than the device
can supply, and after them at most one proper abort (`fetched_readMessage`). So it is with every scripted
device, whose supply is its queue (`readMessage_finite`).
-/

namespace Benchtop

open Usb Wire

variable {σ : Type} {dev : Device σ} {supply : σ → Nat}

namespace Usb

/-- Recording takes nothing from the supply. -/
theorem Device.Bounded.recorded (h : dev.Bounded supply) :
    dev.recorded.Bounded fun s => supply s.1 where
  supply_le call s := h.supply_le call s.1
  supply_lt endpoint maxLength timeout s := h.supply_lt endpoint maxLength timeout s.1

theorem countP_concat (p : Call → Bool) (log : List Event) (call : Call)
    (answer : Except BusError call.Answer) :
    (log ++ [Event.mk call answer]).countP (fun e => p e.call) =
      log.countP (fun e => p e.call) + (p call).toNat := by
  cases h : p call <;> simp [h]

def Call.isBulkOut : Call → Bool
  | .bulkOut .. => true
  | _ => false

def Call.isBulkIn : Call → Bool
  | .bulkIn .. => true
  | _ => false

/-- A request for the state of an abort. -/
def Call.isAbortPoll : Call → Bool
  | .controlIn setup _ _ =>
    setup.request == Request.checkAbortOut.code || setup.request == Request.checkAbortIn.code
  | _ => false

end Usb

namespace Link

variable {link : Link} {n : Nat}

/-! ## Calls of a reading -/

/-- A request for data, or a transfer in answer to one. -/
inductive Fetch (link : Link) : Call → Prop
  | request (tag : UInt8) (size : UInt32) (termChar : Option UInt8) :
    Fetch link (.bulkOut link.endpoints.bulkOut (Envelope.request tag size termChar).bytes
      link.timing.timeout)
  | receive :
    Fetch link (.bulkIn link.endpoints.bulkIn (link.maxTransferSize.toNat + headerSize + 3)
      link.timing.timeout)

theorem SameOpening.fetch {other : Link} (h : link.SameOpening other) {call : Call}
    (hcall : other.Fetch call) : link.Fetch call := by
  rw [h] at hcall
  cases hcall with
  | request tag size termChar => exact .request tag size termChar
  | receive => exact .receive

/-- Requests and transfers, at most `n` of each and one that failed. -/
structure Fetched (link : Link) (n : Nat) (log : List Event) : Prop where
  fetch : ∀ e ∈ log, link.Fetch e.call
  requests_le : log.countP (·.call.isBulkOut) ≤ n + 1
  transfers_le : log.countP (·.call.isBulkIn) ≤ n + 1

/-- Nothing, or the calls of one proper abort. -/
def Recovers (link : Link) (recovery : List Event) : Prop :=
  recovery = [] ∨ ∃ (direction : Direction) (tag : UInt8) (abort : Abort),
    abort.Proper link.timing.maxPolls direction ∧ recovery = abort.events link direction tag

/-- Calls of which every poll has at most one, and which are not made but for polls, are at most as many as
the polls. -/
theorem countP_abort_le {p : Call → Bool} {link : Link} {direction : Direction} {tag : UInt8}
    (hinitiate : p (.controlIn (.toEndpoint (initiateAbort direction).code tag.toUInt16
      (link.bulkEndpoint direction)) 2 link.timing.abortTimeout) = false)
    (hpoll : ∀ q : Poll, (q.events link (.toEndpoint (checkAbort direction).code 0
      (link.bulkEndpoint direction)) 8).countP (fun e => p e.call) ≤ 1)
    (hclear : p (.clearHalt (link.bulkEndpoint direction)) = false) (abort : Abort) :
    (abort.events link direction tag).countP (fun e => p e.call) ≤ abort.polls.length := by
  have hcleared : (abort.cleared?.toList.map fun cleared =>
      Event.mk (.clearHalt (link.bulkEndpoint direction)) cleared).countP (fun e => p e.call) = 0 := by
    cases abort.cleared? <;> simp [hclear]
  rw [Abort.events, List.countP_cons_of_neg (by simp [hinitiate]), List.countP_append, hcleared,
    Nat.add_zero]
  induction abort.polls with
  | nil => exact Nat.le_refl 0
  | cons q polls ih =>
    rw [List.flatMap_cons, List.countP_append, List.length_cons, Nat.add_comm]
    exact Nat.add_le_add ih (hpoll q)

/-- An abort makes no more polls than are allowed, and drains at most one transfer after each. -/
theorem Recovers.counts {recovery : List Event} (h : link.Recovers recovery) :
    recovery.countP (·.call.isAbortPoll) ≤ link.timing.maxPolls ∧
      recovery.countP (·.call.isBulkIn) ≤ link.timing.maxPolls := by
  rcases h with rfl | ⟨direction, tag, abort, hproper, rfl⟩
  · exact ⟨Nat.zero_le _, Nat.zero_le _⟩
  · constructor
    · refine Nat.le_trans (countP_abort_le ?_ (fun q => ?_) rfl abort) hproper.length_polls_le
      · cases direction <;> rfl
      · cases hdrained : q.drained? <;>
          simp [Poll.events, Poll.drainEvents, hdrained, Call.isAbortPoll, List.countP_cons] <;>
          split <;> omega
    · refine Nat.le_trans (countP_abort_le rfl (fun q => ?_) rfl abort) hproper.length_polls_le
      cases hdrained : q.drained? <;>
        simp [Poll.events, Poll.drainEvents, hdrained, Call.isBulkIn]

/-! ## A reading at work -/

/-- So far there have been requests and transfers only, no more requests than transfers but for those that
await one. Every transfer has taken from the supply, which was `n` at first. -/
structure Fetching (link : Link) (supply : σ → Nat) (n unanswered : Nat)
    (c : Connection (σ × List Event)) : Prop where
  sameOpening : link.SameOpening c.link
  fetch : ∀ e ∈ c.device.2, link.Fetch e.call
  requests_le : c.device.2.countP (·.call.isBulkOut) ≤
    c.device.2.countP (·.call.isBulkIn) + unanswered
  transfers_le : c.device.2.countP (·.call.isBulkIn) + supply c.device.1 ≤ n

/-- The reading has come to an end. -/
def FetchEnds (link : Link) (n : Nat) (c : Connection (σ × List Event)) : Prop :=
  ∃ before recovery, c.device.2 = before ++ recovery ∧ link.Fetched n before ∧ link.Recovers recovery

namespace Fetching

variable {unanswered : Nat} {c : Connection (σ × List Event)}

theorem ends (h : Fetching link supply n unanswered c) (hle : unanswered ≤ 1) :
    FetchEnds link n c := by
  have hrequests := h.requests_le
  have htransfers := h.transfers_le
  exact ⟨c.device.2, [], (List.append_nil _).symm, ⟨h.fetch, by omega, by omega⟩, .inl rfl⟩

section

variable (h : Fetching link supply n unanswered c) {call : Call} (hcall : c.link.Fetch call)
  (answer : Except BusError call.Answer)

include h hcall

theorem fetch_concat : ∀ e ∈ c.device.2 ++ [⟨call, answer⟩], link.Fetch e.call :=
  List.forall_mem_append.2 ⟨h.fetch, List.forall_mem_singleton.2 (h.sameOpening.fetch hcall)⟩

/-- One call more, however it has been answered. -/
theorem fetched_concat (hle : unanswered + call.isBulkOut.toNat ≤ 1) :
    link.Fetched n (c.device.2 ++ [⟨call, answer⟩]) := by
  have hrequests := h.requests_le
  have htransfers := h.transfers_le
  have hin := Bool.toNat_le call.isBulkIn
  refine ⟨h.fetch_concat hcall answer, ?_, ?_⟩
  · rw [countP_concat]
    omega
  · rw [countP_concat]
    omega

/-- One call more, for which the supply pays. -/
theorem concat {s : σ} (hsupply : call.isBulkIn.toNat + supply s ≤ supply c.device.1)
    {unanswered' : Nat}
    (hle : unanswered + call.isBulkOut.toNat ≤ call.isBulkIn.toNat + unanswered') :
    Fetching link supply n unanswered' ⟨c.link, (s, c.device.2 ++ [⟨call, answer⟩])⟩ := by
  have hrequests := h.requests_le
  have htransfers := h.transfers_le
  refine ⟨h.sameOpening, h.fetch_concat hcall answer, ?_, ?_⟩
  · dsimp only
    rw [countP_concat, countP_concat]
    omega
  · dsimp only
    rw [countP_concat]
    omega

end

end Fetching

section

variable (hlimit : 0 < link.timing.maxPolls)

include hlimit

/-- A transfer that failed is the last one. -/
theorem fetchEnds_of_error {direction : Direction} {call : Call} {error : BusError}
    {c c' : Connection (σ × List Event)} (hsame : link.SameOpening c.link)
    (hmade : attempt dev.recorded call c = (.error error, c'))
    (hfetched : link.Fetched n (c.device.2 ++ [⟨call, .error error⟩]))
    {recover : Connection (σ × List Event) → Connection (σ × List Event)} {tag : UInt8}
    (hrecover : ∀ c : Connection (σ × List Event), 0 < c.link.timing.maxPolls →
      ∃ a : Abort, a.Proper c.link.timing.maxPolls direction ∧
        dev.recorded.Trace c.device (a.events c.link direction tag) (recover c).device) :
    FetchEnds link n (if error.isTimeout then recover c' else c') := by
  obtain ⟨recovery, hrecorded, hrecovery⟩ := exists_recovery_of_error hlimit hsame hmade hrecover
  refine ⟨_, recovery, by rw [hrecorded, List.append_cons], hfetched, ?_⟩
  split at hrecovery
  · obtain ⟨a, ha, rfl⟩ := hrecovery
    exact .inr ⟨direction, tag, a, ha, rfl⟩
  · exact .inl hrecovery

variable (h : dev.Bounded supply)

include h

theorem ensures_request (tag : UInt8) (size : UInt32) (termChar : Option UInt8) :
    Ensures (Fetching link supply n 0)
      (send dev.recorded tag (Envelope.request tag size termChar).bytes)
      (fun _ => Fetching link supply n 1) fun _ => FetchEnds link n := by
  intro c hc
  have hcall : c.link.Fetch _ := .request tag size termChar
  have hle : 0 + Bool.toNat true ≤ 1 := Nat.le_refl 1
  rw [send_apply]
  rcases hmade : attempt dev.recorded (.bulkOut c.link.endpoints.bulkOut
    (Envelope.request tag size termChar).bytes c.link.timing.timeout) c with ⟨error | count, c'⟩
  · exact fetchEnds_of_error hlimit hc.sameOpening hmade (hc.fetched_concat hcall _ hle)
      fun c => exists_trace_abortOut dev.recorded tag (c := c)
  · obtain rfl := congrArg Prod.snd hmade
    refine hc.concat hcall _ ?_ hle
    exact Nat.le_trans (Nat.le_of_eq (Nat.zero_add _)) (h.supply_le ..)

theorem ensures_answer (tag : UInt8) {unanswered : Nat} (hle : unanswered ≤ 1) :
    Ensures (Fetching link supply n unanswered) (receive dev.recorded tag)
      (fun _ => Fetching link supply n 0) fun _ => FetchEnds link n := by
  intro c hc
  have hcall : c.link.Fetch _ := .receive
  rw [receive_apply]
  rcases hmade : attempt dev.recorded (.bulkIn c.link.endpoints.bulkIn
    (c.link.maxTransferSize.toNat + headerSize + 3) c.link.timing.timeout) c with ⟨error | data, c'⟩
  · exact fetchEnds_of_error hlimit hc.sameOpening hmade (hc.fetched_concat hcall _ hle)
      fun c => exists_trace_abortIn dev.recorded tag (c := c)
  · obtain rfl := congrArg Prod.snd hmade
    refine hc.concat hcall _ ?_ hle
    exact Nat.le_trans (Nat.le_of_eq (Nat.add_comm ..))
      (h.supply_lt _ _ _ _ _ (congrArg Prod.fst hmade))

theorem fetches_fetching : Fetches dev.recorded (Fetching link supply n 0)
    (fun _ => Fetching link supply n 1) (fun _ => Fetching link supply n 0)
    fun _ => FetchEnds link n where
  nextTag _ hc := ⟨hc.sameOpening.trans rfl, hc.fetch, hc.requests_le, hc.transfers_le⟩
  request := ensures_request hlimit h
  answer tag := ensures_answer hlimit h tag (Nat.le_refl 1)
  receive tag := ensures_answer hlimit h tag (Nat.zero_le 1)
  idle_of_asked := id
  verdict _ hc := hc.ends (Nat.zero_le 1)
  endless hc _ := hc.ends (Nat.zero_le 1)

/-- Reading a message from a device with a bounded supply comes to an end. There is at most one request for
data and one transfer more than can be supplied, and one proper abort after them at most. -/
theorem fetched_readMessage (s : σ) :
    let outcome := readMessage dev.recorded ⟨link, (s, [])⟩
    outcome.1 ≠ .error .oversupplied ∧ FetchEnds link (supply s) outcome.2 := by
  refine ⟨neverFails_readMessage h.recorded _, ?_⟩
  have hidle : Fetching link supply (supply s) 0 ⟨link, (s, [])⟩ :=
    ⟨rfl, by simp, Nat.zero_le _, Nat.le_of_eq (Nat.zero_add _)⟩
  have hread := (fetches_fetching hlimit h).readMessage _ hidle
  split at hread
  · next hr =>
    rw [hr]
    exact hread.ends (Nat.zero_le 1)
  · next hr =>
    rw [hr]
    exact hread

end

/-- Reading a message from a scripted device always comes to an end, whatever is queued, whatever the link
and whatever the settings are. With `n` transfers queued there are at most `n + 1` requests for data and
`n + 1` transfers, and after them at most one proper abort, which polls and drains no more often than the
settings allow. -/
theorem readMessage_finite (bus : ScriptedBus) (place : Nat) (link : Link) (settings : Settings)
    (timeout : Duration) :
    let link := { link with timing := { Timing.ofSettings settings with timeout } }
    let dev := (ScriptedBus.device place).recorded
    let c : Connection (ScriptedBus × List Event) := ⟨link, (bus, [])⟩
    let outcome := readMessage dev c
    let n := ScriptedBus.queued place bus
    let limit := max 1 settings.maxStatusPolls.toNat
    (c.readEnvelopes? dev []).isSome ∧ outcome.1 ≠ .error .oversupplied ∧
      ∃ before recovery, outcome.2.device.2 = before ++ recovery ∧
        (∀ e ∈ before, link.Fetch e.call) ∧
        before.countP (·.call.isBulkOut) ≤ n + 1 ∧ before.countP (·.call.isBulkIn) ≤ n + 1 ∧
        link.Recovers recovery ∧
        recovery.countP (·.call.isAbortPoll) ≤ limit ∧ recovery.countP (·.call.isBulkIn) ≤ limit := by
  intro link dev c outcome n limit
  have hbounded := ScriptedBus.bounded_device place
  have hmax : link.timing.maxPolls = limit := Nat.max_comm ..
  have hlimit : 0 < link.timing.maxPolls := hmax ▸ Nat.le_max_left ..
  obtain ⟨hends, before, recovery, he, hfetched, hrecovers⟩ := fetched_readMessage hlimit hbounded bus
  obtain ⟨hpolls, hdrains⟩ := hrecovers.counts
  rw [hmax] at hpolls hdrains
  exact ⟨isSome_readEnvelopes? hbounded.recorded [] c, hends, before, recovery, he, hfetched.fetch,
    hfetched.requests_le, hfetched.transfers_le, hrecovers, hpolls, hdrains⟩

end Link

end Benchtop
