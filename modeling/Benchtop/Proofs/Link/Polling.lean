import Benchtop.Proofs.Link.Clearing
import Mathlib.Logic.Function.Iterate

/-!
# The course of polling

What runs after a pending answer may use the device itself, so that the next poll meets another device
than the one before. The course of polling is told by the connections that the polls meet: the first is
the one that polling was started with, and each other one is made by the poll before it and by what has
run after that (`Polling.next`, `Polling.before`).

Polling can be noted: a note is made of each request that is asked, and of each run of what comes after a
pending answer, but not of what that asks of the device itself (`Polling.noted`). Noting changes nothing
of the course (`Polling.before_noted`).

Main statement: polling asks and runs in turns, up to the first answer that is not pending, or up to the
limit if there is none (`pollStatus_course`).
-/

namespace Benchtop

open Usb Wire

variable {σ : Type}

/-! ## Notes -/

/-- What is noted of polling. -/
inductive PollNote where
  /-- A call was made, and answered so. -/
  | asked (event : Event)
  /-- What is to run after a pending answer has run on this one. -/
  | ran (answer : List UInt8)

/-- The device with notes of its calls, the latest last. -/
def Usb.Device.noted (dev : Device σ) : Device (σ × List PollNote) where
  configurations s := dev.configurations s.1
  active s := dev.active s.1
  perform call s :=
    let (answer, next) := dev.perform call s.1
    (answer, (next, s.2 ++ [.asked ⟨call, answer⟩]))

/-- The connection with the notes of its device. -/
def Connection.withNotes (c : Connection σ) (notes : List PollNote) :
    Connection (σ × List PollNote) :=
  ⟨c.link, (c.device, notes)⟩

namespace Link

/-! ## Connections that the polls meet -/

/-- What is polled, and what runs after a pending answer. -/
structure Polling (σ : Type) where
  dev : Device σ
  setup : Setup
  length : UInt16
  onPending : List UInt8 → StateM (Connection σ) Unit

namespace Polling

section

variable (p : Polling σ) (procedure : Procedure) (c : Connection σ)

/-- The request of a poll. -/
def call : Call := .controlIn p.setup p.length c.link.timing.abortTimeout

/-- One poll: its answer, and the connection after it. -/
def asked : Except BusError (List UInt8) × Connection σ := attempt p.dev (p.call c) c

/-- The connection that the next poll meets, if there is one. -/
def next : Connection σ :=
  match p.asked c with
  | (.ok answer, c) => (p.onPending answer c).2
  | (.error _, c) => c

/-- The connection that poll `k` meets, counted from 0, if all polls before it are pending. -/
def before (k : Nat) : Connection σ := p.next^[k] c

/-- The answer to poll `k`. -/
def answer (k : Nat) : Except BusError (List UInt8) := (p.asked (p.before c k)).1

theorem before_succ (k : Nat) : p.before c (k + 1) = p.before (p.next c) k :=
  Function.iterate_succ_apply _ _ _

theorem before_succ' (k : Nat) : p.before c (k + 1) = p.next (p.before c k) :=
  Function.iterate_succ_apply' _ _ _

theorem answer_succ (k : Nat) : p.answer c (k + 1) = p.answer (p.next c) k := by
  rw [answer, before_succ, answer]

/-- Polling at most `polls` times. -/
def run (polls : Nat) : Exchange σ (List UInt8) :=
  pollStatus p.dev procedure p.setup p.length p.onPending polls

/-- What polling gives by the answer that ends it. -/
def verdict : Except BusError (List UInt8) → Except Failure (List UInt8)
  | .error e => .error (.bus e)
  | .ok [] => .error (.badAnswer (.noData procedure.name))
  | .ok (code :: rest) => .ok (code :: rest)

theorem run_succ (polls : Nat) :
    p.run procedure (polls + 1) c =
      match p.asked c with
      | (.error e, c) => (.error (.bus e), c)
      | (.ok [], c) => (.error (.badAnswer (.noData procedure.name)), c)
      | (.ok (code :: rest), c) =>
        if code = 2 then p.run procedure polls (p.onPending (code :: rest) c).2
        else (.ok (code :: rest), c) := by
  have hasked : p.asked c =
      attempt p.dev (.controlIn p.setup p.length c.link.timing.abortTimeout) c := rfl
  rw [run, pollStatus_succ_apply, hasked]
  rcases attempt p.dev (.controlIn p.setup p.length c.link.timing.abortTimeout) c with
    ⟨_ | _ | ⟨code, rest⟩, c'⟩ <;> rfl

end

variable {p : Polling σ} {procedure : Procedure} {c : Connection σ} {polls limit k : Nat}

/-! ## Where polling ends -/

/-- A pending answer is polled on from. -/
theorem run_succ_of_isPending (h : IsPending (p.asked c).1) :
    p.run procedure (polls + 1) c = p.run procedure polls (p.next c) := by
  obtain ⟨rest, hanswer⟩ := h
  have hasked : p.asked c = (.ok (2 :: rest), (p.asked c).2) := Prod.ext hanswer rfl
  have hnext : p.next c = (p.onPending (2 :: rest) (p.asked c).2).2 := by rw [next, hasked]
  rw [run_succ, hnext, hasked]
  exact if_pos rfl

/-- Any other answer ends polling. -/
theorem run_succ_of_not_isPending (h : ¬ IsPending (p.asked c).1) :
    p.run procedure (polls + 1) c = (verdict procedure (p.asked c).1, (p.asked c).2) := by
  rw [run_succ]
  rcases hasked : p.asked c with ⟨e | _ | ⟨code, rest⟩, c'⟩
  · rfl
  · rfl
  · have hcode : code ≠ 2 := by
      rintro rfl
      exact h ⟨rest, congrArg Prod.fst hasked⟩
    exact if_neg hcode

/-- Polls that are pending are polled on from. -/
theorem run_add_of_isPending (h : ∀ j < k, IsPending (p.answer c j)) :
    p.run procedure (k + polls) c = p.run procedure polls (p.before c k) := by
  induction k generalizing c with
  | zero => rw [Nat.zero_add, before, Function.iterate_zero_apply]
  | succ k ih =>
    have hfirst : IsPending (p.asked c).1 := h 0 (Nat.succ_pos k)
    have hrest : ∀ j < k, IsPending (p.answer (p.next c) j) := fun j hj =>
      p.answer_succ c j ▸ h (j + 1) (Nat.succ_lt_succ hj)
    rw [Nat.add_right_comm, run_succ_of_isPending hfirst, ih hrest, before_succ]

/-- Polling ends with the first answer that is not pending. -/
theorem run_of_not_isPending (hk : k < limit) (hpending : ∀ j < k, IsPending (p.answer c j))
    (hlast : ¬ IsPending (p.answer c k)) :
    p.run procedure limit c = (verdict procedure (p.answer c k), (p.asked (p.before c k)).2) := by
  obtain ⟨polls, rfl⟩ := Nat.exists_eq_add_of_lt hk
  rw [Nat.add_assoc, run_add_of_isPending hpending, run_succ_of_not_isPending hlast, answer]

/-- Polling ends with the limit if all answers are pending. -/
theorem run_of_isPending (hpending : ∀ j < limit, IsPending (p.answer c j)) :
    p.run procedure limit c =
      (.error (.unfinished procedure (p.before c limit).link.timing.maxPolls), p.before c limit) := by
  have hnone : p.run procedure (limit + 0) c = p.run procedure 0 (p.before c limit) :=
    run_add_of_isPending hpending
  exact hnone

/-- Polling gives no pending answer. -/
theorem not_isPending_of_run_eq_ok {bytes : List UInt8}
    (h : (p.run procedure limit c).1 = .ok bytes) : ¬ IsPending (.ok bytes) := by
  induction limit generalizing c with
  | zero => cases h
  | succ polls ih =>
    by_cases hpending : IsPending (p.asked c).1
    · exact ih (run_succ_of_isPending hpending ▸ h)
    · rw [run_succ_of_not_isPending hpending] at h
      generalize (p.asked c).1 = answer at *
      rcases answer with e | _ | ⟨code, rest⟩
      · cases h
      · cases h
      · cases h
        exact hpending

/-- The number of polls that are allowed stays if all that runs between them leaves it alone. -/
theorem maxPolls_before
    (h : ∀ answer c, (p.onPending answer c).2.link.timing.maxPolls = c.link.timing.maxPolls) :
    (p.before c k).link.timing.maxPolls = c.link.timing.maxPolls := by
  induction k with
  | zero => rfl
  | succ k ih =>
    rw [before_succ', next, ← ih]
    have hasked : (p.asked (p.before c k)).2.link = (p.before c k).link := rfl
    generalize p.asked (p.before c k) = asked at *
    rcases asked with ⟨_ | answer, c'⟩
    · exact congrArg (·.timing.maxPolls) hasked
    · exact (h answer c').trans (congrArg (·.timing.maxPolls) hasked)

/-! ## What is noted -/

/-- The same polling with notes. What runs after a pending answer is one note, whatever it asks of the
device. -/
def noted (p : Polling σ) : Polling (σ × List PollNote) where
  dev := p.dev.noted
  setup := p.setup
  length := p.length
  onPending answer c :=
    let next := (p.onPending answer ⟨c.link, c.device.1⟩).2
    ((), next.withNotes (c.device.2 ++ [.ran answer]))

/-- The note of the request of poll `k`, and of its answer. -/
def asking (p : Polling σ) (c : Connection σ) (k : Nat) : PollNote :=
  .asked ⟨p.call (p.before c k), p.answer c k⟩

/-- The note of what runs after an answer, if there is one. -/
def running : Except BusError (List UInt8) → List PollNote
  | .ok answer => [.ran answer]
  | .error _ => []

/-- The notes of the first `k` polls, if all of them are pending. -/
def notes (p : Polling σ) (c : Connection σ) (k : Nat) : List PollNote :=
  (List.range k).flatMap fun j => p.asking c j :: running (p.answer c j)

theorem notes_succ (p : Polling σ) (c : Connection σ) (k : Nat) :
    p.notes c (k + 1) = p.notes c k ++ p.asking c k :: running (p.answer c k) := by
  rw [notes, List.range_succ, List.flatMap_append, List.flatMap_singleton, notes]

theorem asked_noted (p : Polling σ) (c : Connection σ) (notes : List PollNote) :
    p.noted.asked (c.withNotes notes) =
      ((p.asked c).1, (p.asked c).2.withNotes (notes ++ [.asked ⟨p.call c, (p.asked c).1⟩])) :=
  rfl

theorem next_noted (p : Polling σ) (c : Connection σ) (notes : List PollNote) :
    p.noted.next (c.withNotes notes) =
      (p.next c).withNotes
        (notes ++ .asked ⟨p.call c, (p.asked c).1⟩ :: running (p.asked c).1) := by
  rw [next, asked_noted, next]
  generalize p.asked c = asked
  rcases asked with ⟨_ | answer, c'⟩
  · rfl
  · simp [noted, running, Connection.withNotes]

/-- Noting changes nothing of the connections that the polls meet. -/
theorem before_noted (p : Polling σ) (c : Connection σ) (k : Nat) :
    p.noted.before (c.withNotes []) k = (p.before c k).withNotes (p.notes c k) := by
  induction k with
  | zero => rfl
  | succ k ih => rw [before_succ', ih, next_noted, before_succ', notes_succ, asking, answer]

/-- Noting changes nothing of the answers. -/
theorem answer_noted (p : Polling σ) (c : Connection σ) (k : Nat) :
    p.noted.answer (c.withNotes []) k = p.answer c k := by
  rw [answer, before_noted, asked_noted, answer]

end Polling

/-- With anything to run after a pending answer, polling as often as the link allows it at the start: let
`answer k` be the answer to poll `k`, counted from 0, if all polls before it are pending. If it is the
first that is not, polling comes to that answer: the failure of the bus, the failure of an empty answer,
or the answer as it is. The request has then been asked `k + 1` times, and what is to run after a pending
answer has run on each of the `k` pending ones, once and before the next poll. If all polls that are
allowed are pending, polling is unfinished, after all of them and all that was to run after them. It
reports the number of polls that the link allows in the end, which is the number that was made unless
something that has run between them has changed it. A pending answer is never given. -/
theorem pollStatus_course (p : Polling σ) (procedure : Procedure) (c : Connection σ) :
    let limit := c.link.timing.maxPolls
    let polled := pollStatus p.dev procedure p.setup p.length p.onPending limit c
    let noted := p.noted.run procedure limit (c.withNotes [])
    (∀ k < limit, (∀ j < k, IsPending (p.answer c j)) → ¬ IsPending (p.answer c k) →
      polled = (Polling.verdict procedure (p.answer c k), (p.asked (p.before c k)).2) ∧
      noted = (polled.1, polled.2.withNotes (p.notes c k ++ [p.asking c k]))) ∧
    ((∀ j < limit, IsPending (p.answer c j)) →
      polled = (.error (.unfinished procedure (p.before c limit).link.timing.maxPolls),
        p.before c limit) ∧
      noted = (polled.1, polled.2.withNotes (p.notes c limit))) ∧
    ((∀ answer c, (p.onPending answer c).2.link.timing.maxPolls = c.link.timing.maxPolls) →
      (p.before c limit).link.timing.maxPolls = limit) ∧
    ∀ bytes, polled.1 = .ok bytes → ¬ IsPending (.ok bytes) := by
  intro limit polled noted
  have hpolled : p.run procedure limit c = polled := rfl
  refine ⟨fun k hk hpending hlast => ?_, fun hpending => ?_, p.maxPolls_before, fun bytes h => ?_⟩
  · have hended : polled = _ := Polling.run_of_not_isPending hk hpending hlast
    have hnoted : noted = _ := Polling.run_of_not_isPending hk
      (fun j hj => p.answer_noted c j ▸ hpending j hj) (p.answer_noted c k ▸ hlast)
    refine ⟨hended, ?_⟩
    rw [hnoted, hended, p.answer_noted, p.before_noted, p.asked_noted]
    rfl
  · have hended : polled = _ := Polling.run_of_isPending hpending
    have hnoted : noted = _ :=
      Polling.run_of_isPending fun j hj => p.answer_noted c j ▸ hpending j hj
    refine ⟨hended, ?_⟩
    rw [hnoted, hended, p.before_noted]
    rfl
  · exact Polling.not_isPending_of_run_eq_ok (hpolled ▸ h)

end Link

end Benchtop
