import Benchtop.Link.Recovery
import Benchtop.Proofs.Action
import Benchtop.Proofs.Trace

/-!
# The calls of a poll and of an abort

Polling is a list of polls, of which all but the last were answered as pending; a transfer may be
drained after a pending one (`Polled`). What it comes to is told by the last of them (`pollsOutcome`). An
abort is one request, then polls if that was granted, and at most one clearing of a halt (`Abort`).
`Abort.Proper` says when each of these is made.

Main statement: the abort of a transfer makes exactly the calls of a proper abort, whatever they are
answered, and leaves the link as it is (`exists_trace_abortOut`, `exists_trace_abortIn`).
-/

namespace Benchtop

open Usb Wire

variable {σ : Type} {dev : Device σ}

theorem Wire.Status.ofCode_eq_success_iff {code : UInt8} :
    Status.ofCode code = .success ↔ code = 1 := by
  constructor
  · intro h
    rw [← Status.code_ofCode code, h]
    rfl
  · rintro rfl
    rfl

theorem Wire.Status.ofCode_eq_pending_iff {code : UInt8} :
    Status.ofCode code = .pending ↔ code = 2 := by
  constructor
  · intro h
    rw [← Status.code_ofCode code, h]
    rfl
  · rintro rfl
    rfl

namespace Link

theorem trace_attempt (dev : Device σ) (call : Call) (c : Connection σ) :
    dev.Trace c.device [⟨call, (attempt dev call c).1⟩] (attempt dev call c).2.device :=
  dev.trace_perform call c.device

/-! ## Polls -/

/-- One poll of a procedure: what the request was answered, and what came of the transfer that was
drained after it, if one was. -/
structure Poll where
  answer : Except BusError (List UInt8)
  drained? : Option (Except BusError (List UInt8))

namespace Poll

/-- The device is still at work. -/
def Pending (p : Poll) : Prop := ∃ rest, p.answer = .ok (2 :: rest)

/-- The device has come to an end, successful or not. -/
def Final (p : Poll) : Prop := ∃ code rest, p.answer = .ok (code :: rest) ∧ code ≠ 2

/-- The device is still at work and has data to be rid of. -/
def AsksDrain (p : Poll) : Prop :=
  ∃ flags rest, p.answer = .ok (2 :: flags :: rest) ∧ flags &&& 1 ≠ 0

theorem not_final_of_pending {p : Poll} (h : p.Pending) : ¬ p.Final := by
  rintro ⟨code, rest, hfinal, hcode⟩
  obtain ⟨rest', hpending⟩ := h
  rw [hpending] at hfinal
  cases hfinal
  exact hcode rfl

/-- What polling comes to when this poll is the last of the `limit` that are allowed, or the device is not
at work any more. -/
def outcome (procedure : Procedure) (limit : Nat) (p : Poll) : Except Failure (List UInt8) :=
  match p.answer with
  | .error e => .error (.bus e)
  | .ok [] => .error (.badAnswer (.noData procedure.name))
  | .ok (code :: rest) =>
    if code = 2 then .error (.unfinished procedure limit) else .ok (code :: rest)

theorem outcome_of_pending {p : Poll} (h : p.Pending) (procedure : Procedure) (limit : Nat) :
    p.outcome procedure limit = .error (.unfinished procedure limit) := by
  obtain ⟨rest, hanswer⟩ := h
  rw [outcome, hanswer]
  rfl

theorem isOk_outcome (p : Poll) (procedure : Procedure) (limit : Nat) :
    (p.outcome procedure limit).isOk ↔ p.Final := by
  obtain ⟨answer, _⟩ := p
  rcases answer with e | _ | ⟨code, rest⟩
  · simp [outcome, Final, Except.isOk, Except.toBool]
  · simp [outcome, Final, Except.isOk, Except.toBool]
  · by_cases hcode : code = 2 <;> simp [outcome, Final, Except.isOk, Except.toBool, hcode]

/-- The transfer that is drained, if one is. -/
def drainEvents (link : Link) (p : Poll) : List Event :=
  p.drained?.toList.map fun drained =>
    ⟨.bulkIn link.endpoints.bulkIn (link.maxTransferSize.toNat + headerSize)
      link.timing.abortTimeout, drained⟩

/-- The calls of a poll with their answers. -/
def events (link : Link) (setup : Setup) (length : UInt16) (p : Poll) : List Event :=
  ⟨.controlIn setup length link.timing.abortTimeout, p.answer⟩ :: p.drainEvents link

end Poll

/-- What polling at most `limit` times can come to: the polls before the last are pending, and the
last one is so only if it is at the limit. A transfer is drained where `drains` and the device ask
for it. -/
inductive Polled (drains : Prop) : (limit : Nat) → List Poll → Prop
  | exhausted : Polled drains 0 []
  | stopped {limit : Nat} {p : Poll} (hp : ¬ p.Pending) (hdrained : p.drained? = none) :
    Polled drains (limit + 1) [p]
  | pending {limit : Nat} {p : Poll} {ps : List Poll} (hp : p.Pending)
    (hdrained : p.drained?.isSome ↔ drains ∧ p.AsksDrain) (hps : Polled drains limit ps) :
    Polled drains (limit + 1) (p :: ps)

namespace Polled

variable {drains : Prop} {limit : Nat} {ps : List Poll}

theorem length_le (h : Polled drains limit ps) : ps.length ≤ limit := by
  induction h with
  | exhausted => exact Nat.le_refl 0
  | stopped => exact Nat.succ_le_succ (Nat.zero_le _)
  | pending _ _ _ ih => exact Nat.succ_le_succ ih

theorem ne_nil (h : Polled drains (limit + 1) ps) : ps ≠ [] := by
  cases h <;> exact List.cons_ne_nil _ _

/-- Every poll but the last is pending. -/
theorem pending_of_mem_dropLast (h : Polled drains limit ps) : ∀ p ∈ ps.dropLast, p.Pending := by
  induction h with
  | exhausted => simp
  | stopped => simp
  | @pending _ p ps hp _ hps ih =>
    intro q hq
    cases ps with
    | nil => cases hq
    | cons next rest =>
      rcases List.mem_cons.1 hq with rfl | hq
      · exact hp
      · exact ih q hq

/-- Only the limit ends polling while the device is still at work. -/
theorem length_eq_of_pending (h : Polled drains limit ps) :
    ∀ p ∈ ps.getLast?, p.Pending → ps.length = limit := by
  induction h with
  | exhausted => exact fun _ _ _ => rfl
  | stopped hp =>
    rintro q hq hpending
    obtain rfl := Option.some.inj hq
    exact absurd hpending hp
  | @pending limit p ps hp _ hps ih =>
    intro q hq hpending
    cases ps with
    | nil =>
      cases hps
      rfl
    | cons next rest => exact congrArg (· + 1) (ih q hq hpending)

theorem drained_iff (h : Polled drains limit ps) :
    ∀ p ∈ ps, p.drained?.isSome ↔ drains ∧ p.AsksDrain := by
  induction h with
  | exhausted => simp
  | @stopped _ p hp hdrained =>
    intro q hq
    obtain rfl := List.mem_singleton.1 hq
    simp only [hdrained, Option.isSome_none, Bool.false_eq_true, false_iff, not_and]
    rintro - ⟨flags, rest, he, -⟩
    exact hp ⟨_, he⟩
  | pending _ hdrained _ ih =>
    intro q hq
    rcases List.mem_cons.1 hq with rfl | hq
    · exact hdrained
    · exact ih q hq

/-- Polls are pending up to the limit, or up to one that is not. -/
theorem pending_or_exists_concat (h : Polled drains limit ps) :
    (∀ p ∈ ps, p.Pending) ∧ ps.length = limit ∨
      ∃ before last, ps = before ++ [last] ∧ (∀ p ∈ before, p.Pending) ∧ before.length < limit ∧
        ¬ last.Pending := by
  induction h with
  | exhausted => exact .inl ⟨by simp, rfl⟩
  | @stopped _ p hp => exact .inr ⟨[], p, rfl, by simp, Nat.succ_pos _, hp⟩
  | @pending limit p ps hp _ _ ih =>
    rcases ih with ⟨hall, hlength⟩ | ⟨before, last, rfl, hall, hlt, hlast⟩
    · exact .inl ⟨List.forall_mem_cons.2 ⟨hp, hall⟩, congrArg (· + 1) hlength⟩
    · exact .inr ⟨p :: before, last, rfl, List.forall_mem_cons.2 ⟨hp, hall⟩, Nat.succ_lt_succ hlt,
        hlast⟩

end Polled

/-- What polls come to, by the last of them. -/
def pollsOutcome (procedure : Procedure) (limit : Nat) (ps : List Poll) :
    Except Failure (List UInt8) :=
  match ps.getLast? with
  | none => .error (.unfinished procedure limit)
  | some last => last.outcome procedure limit

@[simp] theorem pollsOutcome_concat (procedure : Procedure) (limit : Nat) (ps : List Poll)
    (last : Poll) : pollsOutcome procedure limit (ps ++ [last]) = last.outcome procedure limit := by
  rw [pollsOutcome, List.getLast?_concat]

theorem pollsOutcome_of_pending {ps : List Poll} (h : ∀ p ∈ ps, p.Pending) (procedure : Procedure)
    (limit : Nat) : pollsOutcome procedure limit ps = .error (.unfinished procedure limit) := by
  unfold pollsOutcome
  split
  · rfl
  · next last hlast => exact Poll.outcome_of_pending (h last (List.mem_of_getLast? hlast)) procedure limit

/-- A pending poll has no part in what polls come to. -/
theorem pollsOutcome_cons {p : Poll} (hp : p.Pending) (procedure : Procedure) (limit : Nat)
    (ps : List Poll) : pollsOutcome procedure limit (p :: ps) = pollsOutcome procedure limit ps := by
  cases ps with
  | nil => exact Poll.outcome_of_pending hp procedure limit
  | cons next rest => rw [pollsOutcome, List.getLast?_cons_cons, pollsOutcome]

/-- Polls give an answer if and only if the device has come to an end. -/
theorem Polled.isOk_pollsOutcome {drains : Prop} {limit : Nat} {ps : List Poll}
    (h : Polled drains limit ps) (procedure : Procedure) (limit' : Nat) :
    (pollsOutcome procedure limit' ps).isOk ↔ ∃ p ∈ ps, p.Final := by
  rcases h.pending_or_exists_concat with ⟨hall, -⟩ | ⟨before, last, rfl, hall, -, -⟩
  · rw [pollsOutcome_of_pending hall]
    exact iff_of_false (by simp [Except.isOk, Except.toBool]) fun ⟨p, hp, hfinal⟩ =>
      Poll.not_final_of_pending (hall p hp) hfinal
  · rw [pollsOutcome_concat, Poll.isOk_outcome]
    constructor
    · exact fun hfinal => ⟨last, by simp, hfinal⟩
    · rintro ⟨p, hp, hfinal⟩
      rcases List.mem_append.1 hp with hp | hp
      · exact absurd hfinal (Poll.not_final_of_pending (hall p hp))
      · rwa [List.mem_singleton.1 hp] at hfinal

/-- What may run after a pending answer: at most one transfer is drained, and that where `drains` and
the device ask for it. -/
def DrainsAt (dev : Device σ) (drains : Prop)
    (onPending : List UInt8 → StateM (Connection σ) Unit) : Prop :=
  ∀ rest c, ∃ p : Poll, p.answer = .ok (2 :: rest) ∧ (p.drained?.isSome ↔ drains ∧ p.AsksDrain) ∧
    dev.Trace c.device (p.drainEvents c.link) (onPending (2 :: rest) c).2.device ∧
    (onPending (2 :: rest) c).2.link = c.link

/-- Polling once, and what comes after. -/
theorem pollStatus_succ_apply (procedure : Procedure) (setup : Setup) (length : UInt16)
    (onPending : List UInt8 → StateM (Connection σ) Unit) (polls : Nat) (c : Connection σ) :
    pollStatus dev procedure setup length onPending (polls + 1) c =
      match attempt dev (.controlIn setup length c.link.timing.abortTimeout) c with
      | (.error e, c) => (.error (.bus e), c)
      | (.ok [], c) => (.error (.badAnswer (.noData procedure.name)), c)
      | (.ok (code :: rest), c) =>
        if code = 2 then
          pollStatus dev procedure setup length onPending polls (onPending (code :: rest) c).2
        else (.ok (code :: rest), c) := by
  rw [pollStatus, get_bind_apply, bind_apply, call]
  rcases attempt dev (.controlIn setup length c.link.timing.abortTimeout) c with
    ⟨e | _ | ⟨code, rest⟩, c⟩
  · rfl
  · rfl
  · simp only [mapError_ok, statusOf, MonadExcept.ofExcept, pure_bind]
    by_cases h : code = 2
    · rw [if_pos (Status.ofCode_eq_pending_iff.2 h), if_pos h]
      rfl
    · rw [if_neg (mt Status.ofCode_eq_pending_iff.1 h), if_neg h]
      rfl

/-- Polling makes the calls of its polls, leaves the link as it is, and comes to what the last poll
says. -/
theorem exists_polled_of_pollStatus {drains : Prop}
    {onPending : List UInt8 → StateM (Connection σ) Unit} (hpending : DrainsAt dev drains onPending)
    (procedure : Procedure) (setup : Setup) (length : UInt16) (polls : Nat) (c : Connection σ) :
    ∃ ps t, Polled drains polls ps ∧
      dev.Trace c.device (ps.flatMap (·.events c.link setup length)) t ∧
      pollStatus dev procedure setup length onPending polls c =
        (pollsOutcome procedure c.link.timing.maxPolls ps, ⟨c.link, t⟩) := by
  induction polls generalizing c with
  | zero => exact ⟨[], c.device, .exhausted, rfl, rfl⟩
  | succ polls ih =>
    rw [pollStatus_succ_apply, attempt]
    rcases hasked : dev.perform (.controlIn setup length c.link.timing.abortTimeout) c.device with
      ⟨e | _ | ⟨code, rest⟩, t⟩
    · have hstopped : ¬ (Poll.mk (.error e) none).Pending := by rintro ⟨rest, ⟨⟩⟩
      exact ⟨[_], t, .stopped hstopped rfl, ⟨t, hasked, rfl⟩, rfl⟩
    · have hstopped : ¬ (Poll.mk (.ok []) none).Pending := by rintro ⟨rest, ⟨⟩⟩
      exact ⟨[_], t, .stopped hstopped rfl, ⟨t, hasked, rfl⟩, rfl⟩
    · dsimp only
      by_cases hcode : code = 2
      · subst hcode
        rw [if_pos rfl]
        obtain ⟨p, hanswer, hdrained, hdrain, hsame⟩ := hpending rest ⟨c.link, t⟩
        obtain ⟨ps, u, hps, hpolls, heq⟩ := ih (onPending (2 :: rest) ⟨c.link, t⟩).2
        rw [hsame] at hpolls heq
        have hp : p.Pending := ⟨rest, hanswer⟩
        refine ⟨p :: ps, u, .pending hp hdrained hps, ?_, ?_⟩
        · rw [List.flatMap_cons, Poll.events, hanswer]
          exact ⟨t, hasked, hdrain.append hpolls⟩
        · rw [heq, pollsOutcome_cons hp]
      · have hstopped : ¬ (Poll.mk (.ok (code :: rest)) none).Pending := by
          rintro ⟨rest, ⟨⟩⟩
          exact hcode rfl
        refine ⟨[_], t, .stopped hstopped rfl, ⟨t, hasked, rfl⟩, ?_⟩
        simp [pollsOutcome, Poll.outcome, hcode]

theorem drainsAt_nothing (dev : Device σ) {drains : Prop} (h : ¬ drains) :
    DrainsAt dev drains fun _ => pure () :=
  fun rest _ => ⟨⟨.ok (2 :: rest), none⟩, rfl, by simp [h], rfl, rfl⟩

theorem drainsAt_drainIfAsked (dev : Device σ) {drains : Prop} (h : drains) :
    DrainsAt dev drains (drainIfAsked dev) := by
  intro rest c
  cases rest with
  | nil => exact ⟨⟨.ok [2], none⟩, rfl, by simp [Poll.AsksDrain], rfl, rfl⟩
  | cons flags rest =>
    by_cases hflags : hasBit flags 1
    · have hdrain : drainIfAsked dev (2 :: flags :: rest) c = drain dev c := by
        rw [drainIfAsked, if_pos hflags]
      rw [hdrain]
      refine ⟨⟨.ok (2 :: flags :: rest), some (attempt dev (.bulkIn c.link.endpoints.bulkIn
        (c.link.maxTransferSize.toNat + headerSize) c.link.timing.abortTimeout) c).1⟩, rfl, ?_,
        trace_attempt dev _ c, rfl⟩
      simpa [h, Poll.AsksDrain, hasBit] using hflags
    · have hskip : drainIfAsked dev (2 :: flags :: rest) c = ((), c) := by
        rw [drainIfAsked, if_neg hflags]
        rfl
      rw [hskip]
      refine ⟨⟨.ok (2 :: flags :: rest), none⟩, rfl, ?_, rfl, rfl⟩
      simpa [h, Poll.AsksDrain, hasBit] using hflags

/-! ## Aborts -/

/-- The request that starts the abort of a transfer. -/
def initiateAbort : Direction → Request
  | .output => .initiateAbortOut
  | .input => .initiateAbortIn

/-- The request that is polled for the end of the abort. -/
def checkAbort : Direction → Request
  | .output => .checkAbortOut
  | .input => .checkAbortIn

/-- The endpoint of the bulk transfers in a direction. -/
def bulkEndpoint (link : Link) : Direction → UInt8
  | .output => link.endpoints.bulkOut
  | .input => link.endpoints.bulkIn

/-- The answers to an abort: to the request that starts it, to the polls, and to the clearing of the
endpoint's halt, if that was made. -/
structure Abort where
  initiated : Except BusError (List UInt8)
  polls : List Poll
  cleared? : Option (Except BusError Unit)

namespace Abort

/-- The calls of the abort of the transfer `tag`, with their answers. -/
def events (link : Link) (direction : Direction) (tag : UInt8) (a : Abort) : List Event :=
  ⟨.controlIn (.toEndpoint (initiateAbort direction).code tag.toUInt16 (link.bulkEndpoint direction))
      2 link.timing.abortTimeout, a.initiated⟩ ::
    (a.polls.flatMap (Poll.events link
        (.toEndpoint (checkAbort direction).code 0 (link.bulkEndpoint direction)) 8) ++
      a.cleared?.toList.map fun cleared => ⟨.clearHalt (link.bulkEndpoint direction), cleared⟩)

/-- Which calls an abort makes, by what it is answered. -/
structure Proper (limit : Nat) (direction : Direction) (a : Abort) : Prop where
  /-- The device is polled if and only if it has granted the abort. -/
  polls_ne_nil_iff : a.polls ≠ [] ↔ ∃ rest, a.initiated = .ok (1 :: rest)
  length_polls_le : a.polls.length ≤ limit
  /-- It is polled on while it is still at work, ... -/
  pending_of_mem_dropLast : ∀ p ∈ a.polls.dropLast, p.Pending
  /-- ... up to the limit. -/
  length_polls_eq : ∀ p ∈ a.polls.getLast?, p.Pending → a.polls.length = limit
  /-- A transfer is drained after a poll if and only if the device asks for it on the way in. -/
  drained_iff : ∀ p ∈ a.polls, p.drained?.isSome ↔ direction = .input ∧ p.AsksDrain
  /-- The halt is cleared if and only if the abort of a transfer on the way out came to an end. -/
  cleared_iff : a.cleared?.isSome ↔ direction = .output ∧ ∃ p ∈ a.polls, p.Final

end Abort

/-- Starting an abort, and what comes after. -/
theorem abortTransfer_apply (procedure : Procedure) (initiate check : Request)
    (endpoint tag : UInt8) (onPending : List UInt8 → StateM (Connection σ) Unit)
    (c : Connection σ) :
    abortTransfer dev procedure initiate check endpoint tag onPending c =
      match attempt dev (.controlIn (.toEndpoint initiate.code tag.toUInt16 endpoint) 2
        c.link.timing.abortTimeout) c with
      | (.error _, c') => (false, c')
      | (.ok [], c') => (false, c')
      | (.ok (code :: _), c') =>
        if code = 1 then
          let polled := pollStatus dev procedure (.toEndpoint check.code 0 endpoint) 8 onPending
            c.link.timing.maxPolls c'
          (polled.1.isOk, polled.2)
        else (false, c') := by
  rw [abortTransfer, get_seq_apply, seq_apply]
  generalize attempt dev _ c = asked
  rcases asked with ⟨e | _ | ⟨code, rest⟩, c'⟩
  · rfl
  · rfl
  · dsimp only [statusOf]
    by_cases hcode : code = 1
    · rw [if_pos hcode]
      subst hcode
      rfl
    · rw [if_neg hcode]
      cases hstatus : Status.ofCode code with
      | success => exact absurd (Status.ofCode_eq_success_iff.1 hstatus) hcode
      | _ => rfl

/-- Starting an abort and polling for its end. -/
theorem exists_trace_abortTransfer {drains : Prop}
    {onPending : List UInt8 → StateM (Connection σ) Unit} (hpending : DrainsAt dev drains onPending)
    (procedure : Procedure) (initiate check : Request) (endpoint tag : UInt8) (c : Connection σ) :
    let outcome := abortTransfer dev procedure initiate check endpoint tag onPending c
    ∃ initiated ps,
      dev.Trace c.device
        (⟨.controlIn (.toEndpoint initiate.code tag.toUInt16 endpoint) 2 c.link.timing.abortTimeout,
            initiated⟩ ::
          ps.flatMap (Poll.events c.link (.toEndpoint check.code 0 endpoint) 8)) outcome.2.device ∧
      outcome.2.link = c.link ∧
      ((∃ rest, initiated = .ok (1 :: rest)) ∧ Polled drains c.link.timing.maxPolls ps ∨
        (¬ ∃ rest, initiated = .ok (1 :: rest)) ∧ ps = []) ∧
      (outcome.1 ↔ ∃ p ∈ ps, p.Final) := by
  have htrace := trace_attempt dev (.controlIn (.toEndpoint initiate.code tag.toUInt16 endpoint) 2
    c.link.timing.abortTimeout) c
  have hlink : (attempt dev (.controlIn (.toEndpoint initiate.code tag.toUInt16 endpoint) 2
    c.link.timing.abortTimeout) c).2.link = c.link := rfl
  dsimp only
  rw [abortTransfer_apply]
  generalize attempt dev _ c = asked at *
  rcases asked with ⟨e | _ | ⟨code, rest⟩, c'⟩
  · exact ⟨.error e, [], htrace, hlink, .inr ⟨nofun, rfl⟩, by simp⟩
  · exact ⟨.ok [], [], htrace, hlink, .inr ⟨nofun, rfl⟩, by simp⟩
  · dsimp only
    by_cases hcode : code = 1
    · subst hcode
      rw [if_pos rfl]
      obtain ⟨ps, t, hps, hpolls, heq⟩ := exists_polled_of_pollStatus hpending procedure
        (.toEndpoint check.code 0 endpoint) 8 c.link.timing.maxPolls c'
      replace hlink : c'.link = c.link := hlink
      rw [hlink] at hpolls heq
      rw [heq]
      exact ⟨_, ps, htrace.append hpolls, rfl, .inl ⟨⟨rest, rfl⟩, hps⟩, hps.isOk_pollsOutcome _ _⟩
    · rw [if_neg hcode]
      exact ⟨_, [], htrace, hlink, .inr ⟨by rintro ⟨rest, ⟨⟩⟩; exact hcode rfl, rfl⟩, by simp⟩

/-- An abort that polls as it should is proper, if polling is allowed at all. -/
theorem Abort.Proper.of_polled {limit : Nat} (hlimit : 0 < limit) {direction : Direction}
    {initiated : Except BusError (List UInt8)} {ps : List Poll}
    {cleared? : Option (Except BusError Unit)}
    (hpolls : (∃ rest, initiated = .ok (1 :: rest)) ∧ Polled (direction = .input) limit ps ∨
      (¬ ∃ rest, initiated = .ok (1 :: rest)) ∧ ps = [])
    (hcleared : cleared?.isSome ↔ direction = .output ∧ ∃ p ∈ ps, p.Final) :
    Proper limit direction ⟨initiated, ps, cleared?⟩ := by
  rcases hpolls with ⟨hgranted, hps⟩ | ⟨hrefused, rfl⟩
  · obtain ⟨limit, rfl⟩ := Nat.exists_eq_add_of_lt hlimit
    rw [Nat.zero_add] at hps ⊢
    exact ⟨iff_of_true hps.ne_nil hgranted, hps.length_le, hps.pending_of_mem_dropLast,
      hps.length_eq_of_pending, hps.drained_iff, hcleared⟩
  · exact ⟨iff_of_false (fun h => h rfl) hrefused, Nat.zero_le _, by simp, by simp, by simp, hcleared⟩

/-- The abort of a transfer on the way out, and the clearing of its halt. -/
theorem abortOut_apply (tag : UInt8) (c : Connection σ) :
    abortOut dev tag c =
      let aborted := abortTransfer dev .abortOut .initiateAbortOut .checkAbortOut
        c.link.endpoints.bulkOut tag (fun _ => pure ()) c
      if aborted.1 then ((), (attempt dev (.clearHalt c.link.endpoints.bulkOut) aborted.2).2)
      else ((), aborted.2) := by
  rw [abortOut, get_seq_apply, seq_apply]
  dsimp only
  split <;> rfl

theorem exists_trace_abortOut (dev : Device σ) (tag : UInt8) {c : Connection σ}
    (hlimit : 0 < c.link.timing.maxPolls) :
    ∃ a : Abort, a.Proper c.link.timing.maxPolls .output ∧
      dev.Trace c.device (a.events c.link .output tag) (abortOut dev tag c).2.device := by
  have hdrains := drainsAt_nothing dev (show ¬ Direction.output = .input by decide)
  obtain ⟨initiated, ps, htrace, -, hpolls, hfinished⟩ := exists_trace_abortTransfer hdrains
    .abortOut .initiateAbortOut .checkAbortOut c.link.endpoints.bulkOut tag c
  rw [abortOut_apply]
  dsimp only
  split
  · next hdone =>
    have hclear := trace_attempt dev (.clearHalt c.link.endpoints.bulkOut) (abortTransfer dev
      .abortOut .initiateAbortOut .checkAbortOut c.link.endpoints.bulkOut tag (fun _ => pure ()) c).2
    exact ⟨⟨initiated, ps, some _⟩, .of_polled hlimit hpolls
      (iff_of_true rfl ⟨rfl, hfinished.1 hdone⟩), htrace.append hclear⟩
  · next hdone =>
    refine ⟨⟨initiated, ps, none⟩, .of_polled hlimit hpolls
      (iff_of_false (by decide) fun h => hdone (hfinished.2 h.2)), ?_⟩
    simp only [Abort.events, Option.toList_none, List.map_nil, List.append_nil]
    exact htrace

/-- The abort of a transfer on the way in. -/
theorem exists_trace_abortIn (dev : Device σ) (tag : UInt8) {c : Connection σ}
    (hlimit : 0 < c.link.timing.maxPolls) :
    ∃ a : Abort, a.Proper c.link.timing.maxPolls .input ∧
      dev.Trace c.device (a.events c.link .input tag) (abortIn dev tag c).2.device := by
  have hdrains := drainsAt_drainIfAsked dev (show Direction.input = .input from rfl)
  obtain ⟨initiated, ps, htrace, -, hpolls, -⟩ := exists_trace_abortTransfer hdrains .abortIn
    .initiateAbortIn .checkAbortIn c.link.endpoints.bulkIn tag c
  refine ⟨⟨initiated, ps, none⟩, .of_polled hlimit hpolls
    (iff_of_false (by decide) fun h => absurd h.1 (by decide)), ?_⟩
  simp only [Abort.events, Option.toList_none, List.map_nil, List.append_nil]
  exact htrace

end Link

end Benchtop
