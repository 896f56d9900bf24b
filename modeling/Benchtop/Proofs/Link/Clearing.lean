import Benchtop.Link.Control
import Benchtop.Proofs.Link.Recovery
import Benchtop.Proofs.Link.Status

/-!
# Clearing a device

A clear is one request, then polls if that was granted, and the clearing of the halt of the bulk OUT
endpoint once the device has come to a good end (`Clearing`). `Clears` lists what may come of it, by the
answers to the request, to the polls and to the clearing of the halt. What comes of a transfer that is
drained between two polls is not among these, and the rest leaves no choice (`Clears.unique`).

Main statements: whatever the device does, a clear makes these calls and no others, has one of these
outcomes, and leaves the link as it is (`exists_clears_clear`). The halt is cleared if and only if the
device has granted the clear and has come to a good end at one of the polls that are allowed, and the
clear succeeds if that succeeds, and only then (`Clears.cleared_iff`, `Clears.eq_ok_iff`).
-/

namespace Benchtop.Link

open Usb Wire

variable {σ : Type} {dev : Device σ}

/-- The answers to a clear: to the request that starts it, to the polls, and to the clearing of the
halt, if that was made. -/
structure Clearing where
  initiated : Except BusError (List UInt8)
  polls : List Poll
  cleared? : Option (Except BusError Unit)

namespace Clearing

/-- The answers to the polls, without what came of the transfers that were drained. -/
def answers (a : Clearing) : List (Except BusError (List UInt8)) := a.polls.map Poll.answer

/-- The calls of a clear, with their answers. -/
def events (link : Link) (a : Clearing) : List Event :=
  ⟨.controlIn (.toInterface Request.initiateClear.code 0 link.interface) 1
      link.timing.abortTimeout, a.initiated⟩ ::
    (a.polls.flatMap (Poll.events link
        (.toInterface Request.checkClear.code 0 link.interface) 2) ++
      a.cleared?.toList.map fun cleared => ⟨.clearHalt link.endpoints.bulkOut, cleared⟩)

end Clearing

/-! ## Outcomes -/

/-- The failure of a clear that has to be granted, or has to have come to a good end, by this answer. -/
def clearFailure? (what : String) : Except BusError (List UInt8) → Option Failure
  | .error e => some (.bus e)
  | .ok [] => some (.badAnswer (.noData what))
  | .ok (code :: _) => if code = 1 then none else some (.clearFailed code)

theorem clearFailure?_eq_none_iff {what : String} {answer : Except BusError (List UInt8)} :
    clearFailure? what answer = none ↔ ∃ rest, answer = .ok (1 :: rest) := by
  rcases answer with e | _ | ⟨code, rest⟩ <;> simp [clearFailure?]

/-- The answer says that the device is still at work. -/
def IsPending (answer : Except BusError (List UInt8)) : Prop := ∃ rest, answer = .ok (2 :: rest)

/-- The outcomes of a clear that polls at most `limit` times. -/
inductive Clears (limit : Nat) (initiated : Except BusError (List UInt8)) :
    List (Except BusError (List UInt8)) → Option (Except BusError Unit) → Except Failure Unit → Prop
  /-- The clear is not granted. -/
  | refused {failure : Failure}
    (h : clearFailure? Request.initiateClear.name initiated = some failure) :
    Clears limit initiated [] none (.error failure)
  /-- All polls that are allowed are pending. -/
  | unfinished {answers : List (Except BusError (List UInt8))}
    (h : clearFailure? Request.initiateClear.name initiated = none)
    (hpending : ∀ answer ∈ answers, IsPending answer) (hlimit : answers.length = limit) :
    Clears limit initiated answers none (.error (.unfinished .clear limit))
  /-- The first poll that is not pending, and the last one, is not a success. -/
  | stopped {pending : List (Except BusError (List UInt8))} {last : Except BusError (List UInt8)}
    {failure : Failure} (h : clearFailure? Request.initiateClear.name initiated = none)
    (hpending : ∀ answer ∈ pending, IsPending answer) (hlimit : pending.length < limit)
    (hlast : ¬ IsPending last) (hfailure : clearFailure? Procedure.clear.name last = some failure) :
    Clears limit initiated (pending ++ [last]) none (.error failure)
  /-- It is a success, and the halt is cleared. -/
  | cleared {pending : List (Except BusError (List UInt8))} {last : Except BusError (List UInt8)}
    (h : clearFailure? Request.initiateClear.name initiated = none)
    (hpending : ∀ answer ∈ pending, IsPending answer) (hlimit : pending.length < limit)
    (hlast : clearFailure? Procedure.clear.name last = none) (halt : Except BusError Unit) :
    Clears limit initiated (pending ++ [last]) (some halt) (halt.mapError .bus)

/-- The device grants the clear, and comes to a good end at one of the polls that are allowed. -/
def ComesClear (limit : Nat) (initiated : Except BusError (List UInt8))
    (answers : List (Except BusError (List UInt8))) : Prop :=
  (∃ rest, initiated = .ok (1 :: rest)) ∧
    ∃ k < limit, (∃ rest, answers[k]? = some (.ok (1 :: rest))) ∧
      ∀ j < k, ∃ rest, answers[j]? = some (.ok (2 :: rest))

theorem not_isPending_of_clearFailure?_eq_none {what : String}
    {answer : Except BusError (List UInt8)} (h : clearFailure? what answer = none) :
    ¬ IsPending answer := by
  obtain ⟨rest, rfl⟩ := clearFailure?_eq_none_iff.1 h
  rintro ⟨rest', ⟨⟩⟩

/-- One of the polls is a success. -/
theorem ComesClear.exists_mem {limit : Nat} {initiated : Except BusError (List UInt8)}
    {answers : List (Except BusError (List UInt8))} (h : ComesClear limit initiated answers) :
    ∃ answer ∈ answers, clearFailure? Procedure.clear.name answer = none := by
  obtain ⟨-, k, -, ⟨rest, hk⟩, -⟩ := h
  exact ⟨_, List.mem_of_getElem? hk, clearFailure?_eq_none_iff.2 ⟨rest, rfl⟩⟩

namespace Clears

variable {limit : Nat} {initiated : Except BusError (List UInt8)}
  {answers : List (Except BusError (List UInt8))} {cleared? : Option (Except BusError Unit)}
  {outcome outcome' : Except Failure Unit}

theorem cleared_iff (h : Clears limit initiated answers cleared? outcome) :
    cleared?.isSome ↔ ComesClear limit initiated answers := by
  cases h with
  | refused => exact iff_of_false (by simp) fun h => by simpa using h.exists_mem
  | unfinished _ hpending =>
    refine iff_of_false (by simp) fun h => ?_
    obtain ⟨answer, hmem, hsuccess⟩ := h.exists_mem
    exact not_isPending_of_clearFailure?_eq_none hsuccess (hpending answer hmem)
  | stopped _ hpending _ _ hfailure =>
    refine iff_of_false (by simp) fun h => ?_
    obtain ⟨answer, hmem, hsuccess⟩ := h.exists_mem
    rcases List.mem_append.1 hmem with hmem | hmem
    · exact not_isPending_of_clearFailure?_eq_none hsuccess (hpending answer hmem)
    · rw [List.mem_singleton.1 hmem, hfailure] at hsuccess
      cases hsuccess
  | @cleared pending _ hgranted hpending hlimit hlast =>
    refine iff_of_true rfl ⟨clearFailure?_eq_none_iff.1 hgranted, pending.length, hlimit, ?_, ?_⟩
    · rw [List.getElem?_concat_length]
      obtain ⟨rest, rfl⟩ := clearFailure?_eq_none_iff.1 hlast
      exact ⟨rest, rfl⟩
    · intro j hj
      rw [List.getElem?_append_left hj, List.getElem?_eq_getElem hj]
      obtain ⟨rest, he⟩ := hpending _ (List.getElem_mem hj)
      exact ⟨rest, congrArg some he⟩

theorem eq_ok_iff (h : Clears limit initiated answers cleared? outcome) :
    outcome = .ok () ↔ ComesClear limit initiated answers ∧ cleared? = some (.ok ()) := by
  rw [← h.cleared_iff]
  cases h with
  | refused => simp
  | unfinished => simp
  | stopped => simp
  | cleared _ _ _ _ halt =>
    cases halt with
    | error e => exact iff_of_false nofun fun h => nomatch h.2
    | ok => exact iff_of_true rfl ⟨rfl, rfl⟩

/-- What comes of a clear is settled by the answers to its request, to its polls and to the clearing of
the halt. -/
theorem unique (h : Clears limit initiated answers cleared? outcome)
    (h' : Clears limit initiated answers cleared? outcome') : outcome = outcome' := by
  generalize hanswers : answers = answers' at h'
  cases h with
  | refused hrefused =>
    cases h' with
    | refused hrefused' => rw [Option.some.inj (hrefused.symm.trans hrefused')]
    | unfinished hgranted => exact absurd (hgranted.symm.trans hrefused) nofun
    | stopped hgranted => exact absurd (hgranted.symm.trans hrefused) nofun
  | unfinished hgranted hpending =>
    cases h' with
    | refused hrefused => exact absurd (hgranted.symm.trans hrefused) nofun
    | unfinished => rfl
    | stopped _ _ _ hlast =>
      rw [hanswers] at hpending
      exact absurd (hpending _ List.mem_concat_self) hlast
  | stopped hgranted hpending _ hlast hfailure =>
    cases h' with
    | refused hrefused => exact absurd (hgranted.symm.trans hrefused) nofun
    | unfinished _ hpending' =>
      rw [← hanswers] at hpending'
      exact absurd (hpending' _ List.mem_concat_self) hlast
    | stopped _ _ _ _ hfailure' =>
      obtain ⟨-, hlast⟩ := List.append_inj' hanswers rfl
      rw [List.singleton_inj.1 hlast] at hfailure
      rw [Option.some.inj (hfailure.symm.trans hfailure')]
  | cleared =>
    cases h' with
    | cleared => rfl

end Clears

/-! ## The calls -/

/-- An answer that has to begin with success, and what comes after. -/
theorem clearFailure?_bind_apply {α : Type} (what : String) (answer : List UInt8)
    (next : Exchange σ α) (c : Connection σ) :
    (do
      let status ← MonadExcept.ofExcept (statusOf what answer)
      if status ≠ .success then throw (.clearFailed status.code)
      next : Exchange σ α) c =
      match clearFailure? what (.ok answer) with
      | some failure => (.error failure, c)
      | none => next c := by
  cases answer with
  | nil => rfl
  | cons code rest =>
    simp only [statusOf, MonadExcept.ofExcept, pure_bind, clearFailure?]
    by_cases hcode : code = 1
    · rw [if_neg (not_not_intro (Status.ofCode_eq_success_iff.2 hcode)), if_pos hcode]
    · rw [if_pos (mt Status.ofCode_eq_success_iff.1 hcode), if_neg hcode, Status.code_ofCode]
      rfl

/-- The failure of a clear whose polls have come to this. -/
def polledFailure? : Except Failure (List UInt8) → Option Failure
  | .error failure => some failure
  | .ok answer => clearFailure? Request.checkClear.name (.ok answer)

/-- Only an empty answer is reported under the name of its request, and that ends the polling under the
name of the procedure. -/
theorem polledFailure?_outcome {last : Poll} (h : ¬ last.Pending) (limit : Nat) :
    polledFailure? (last.outcome .clear limit) =
      clearFailure? Procedure.clear.name last.answer := by
  obtain ⟨answer, drained?⟩ := last
  rcases answer with e | _ | ⟨code, rest⟩
  · rfl
  · rfl
  · have hcode : code ≠ 2 := by
      rintro rfl
      exact h ⟨rest, rfl⟩
    have houtcome : Poll.outcome .clear limit ⟨.ok (code :: rest), drained?⟩ = .ok (code :: rest) :=
      if_neg hcode
    rw [houtcome]
    rfl

/-- The request that starts a clear, and what comes after. -/
theorem clear_apply (c : Connection σ) :
    clear dev c =
      match attempt dev (.controlIn (.toInterface Request.initiateClear.code 0 c.link.interface) 1
        c.link.timing.abortTimeout) c with
      | (initiated, c') =>
        match clearFailure? Request.initiateClear.name initiated with
        | some failure => (.error failure, c')
        | none =>
          let polled := pollStatus dev .clear
            (.toInterface Request.checkClear.code 0 c.link.interface) 2 (drainIfAsked dev)
            c.link.timing.maxPolls c'
          match polledFailure? polled.1 with
          | some failure => (.error failure, polled.2)
          | none => call dev (.clearHalt c.link.endpoints.bulkOut) polled.2 := by
  rw [clear, get_bind_apply, bind_apply, call]
  rcases attempt dev (.controlIn (.toInterface Request.initiateClear.code 0 c.link.interface) 1
    c.link.timing.abortTimeout) c with ⟨e | initiated, c'⟩
  · rfl
  · dsimp only [mapError_ok]
    rw [clearFailure?_bind_apply]
    cases clearFailure? Request.initiateClear.name (.ok initiated) with
    | some failure => rfl
    | none =>
      dsimp only
      rw [bind_apply]
      rcases pollStatus dev .clear (.toInterface Request.checkClear.code 0 c.link.interface) 2
        (drainIfAsked dev) c.link.timing.maxPolls c' with ⟨failure | last, c''⟩
      · rfl
      · exact clearFailure?_bind_apply _ _ _ _

/-- Whatever the device does, a clear makes the calls of one of its outcomes, drains a transfer after each
poll that asks for it and after no other, and leaves the link as it is. -/
theorem exists_clears_clear (dev : Device σ) (c : Connection σ) :
    ∃ (a : Clearing) (outcome : Except Failure Unit) (t : σ),
      dev.Trace c.device (a.events c.link) t ∧ clear dev c = (outcome, ⟨c.link, t⟩) ∧
      Clears c.link.timing.maxPolls a.initiated a.answers a.cleared? outcome ∧
      ∀ p ∈ a.polls, p.drained?.isSome ↔ p.AsksDrain := by
  rw [clear_apply, attempt]
  rcases hasked : dev.perform (.controlIn (.toInterface Request.initiateClear.code 0
    c.link.interface) 1 c.link.timing.abortTimeout) c.device with ⟨initiated, t⟩
  dsimp only
  cases hinitiated : clearFailure? Request.initiateClear.name initiated with
  | some failure =>
    exact ⟨⟨initiated, [], none⟩, _, t, ⟨t, hasked, rfl⟩, rfl, .refused hinitiated, by simp⟩
  | none =>
    obtain ⟨ps, u, hps, hpolls, heq⟩ := exists_polled_of_pollStatus
      (drainsAt_drainIfAsked dev trivial) .clear
      (.toInterface Request.checkClear.code 0 c.link.interface) 2 c.link.timing.maxPolls ⟨c.link, t⟩
    have hdrained : ∀ p ∈ ps, p.drained?.isSome ↔ p.AsksDrain := by simpa using hps.drained_iff
    have hunhalted : dev.Trace c.device (Clearing.events c.link ⟨initiated, ps, none⟩) u :=
      ⟨t, hasked, hpolls.append (rfl : dev.Trace u [] u)⟩
    dsimp only
    rw [heq]
    rcases hps.pending_or_exists_concat with ⟨hall, hlength⟩ | ⟨before, last, rfl, hall, hlt, hlast⟩
    · rw [pollsOutcome_of_pending hall]
      exact ⟨_, _, u, hunhalted, rfl, .unfinished hinitiated (List.forall_mem_map.2 hall)
        ((List.length_map _).trans hlength), hdrained⟩
    · have hbefore : ∀ answer ∈ before.map Poll.answer, IsPending answer := List.forall_mem_map.2 hall
      have hlimit : (before.map Poll.answer).length < c.link.timing.maxPolls := by
        rwa [List.length_map]
      have hanswers (cleared? : Option (Except BusError Unit)) :
          Clearing.answers ⟨initiated, before ++ [last], cleared?⟩ =
            before.map Poll.answer ++ [last.answer] := List.map_append
      rw [pollsOutcome_concat, polledFailure?_outcome hlast]
      cases hsuccess : clearFailure? Procedure.clear.name last.answer with
      | some failure =>
        refine ⟨_, _, u, hunhalted, rfl, ?_, hdrained⟩
        rw [hanswers]
        exact .stopped hinitiated hbefore hlimit hlast hsuccess
      | none =>
        refine ⟨⟨initiated, before ++ [last], some _⟩, _, _, ⟨t, hasked, hpolls.append
          (trace_attempt dev (.clearHalt c.link.endpoints.bulkOut) ⟨c.link, u⟩)⟩, rfl, ?_, hdrained⟩
        rw [hanswers]
        exact .cleared hinitiated hbefore hlimit hsuccess _

end Benchtop.Link
