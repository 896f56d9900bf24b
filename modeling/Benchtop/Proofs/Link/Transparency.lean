import Benchtop.Proofs.Link.Acceptance
import Benchtop.Proofs.Link.Messages
import Benchtop.Proofs.Link.Request

/-!
# Failures of the bus

An operation makes calls for itself (`IsPrimary`), and calls that belong to the abort of a transfer or
drain an endpoint. As long as no call of its own has failed, it is `Calm`. The first one that fails stops
it: the operation fails with just this failure of the bus, and the calls after it, if there are any, are
none of its own (`Stopped`). The other calls may fail as they please, which neither stops the operation
nor shows in its answer (`Aside`).

Main statements: every operation of a link that begins calm gives a result and is calm, or fails and
concludes as its failure says (`conveys_calm` for messages, `calm_clear`, `calm_readStatusByte` and so on).
-/

namespace Benchtop

open Usb Wire

variable {σ : Type} {dev : Device σ}

namespace Link

/-! ## Calls of an operation's own -/

/-- The calls that an operation makes for itself. A request to an endpoint belongs to the abort of a
transfer, and a transfer without room for padding is drained. The halt of an endpoint is cleared for the
operation itself only if that `clears` it, and after an abort otherwise. -/
def IsPrimary (link : Link) (clears : Bool) : Call → Prop
  | .controlIn setup _ _ => setup.recipient = .interface
  | .bulkIn _ maxLength _ => maxLength = link.maxTransferSize.toNat + headerSize + 3
  | .clearHalt _ => clears
  | _ => True

/-- The calls of an abort, and the transfers that drain an endpoint. -/
inductive IsRecovery (link : Link) : Call → Prop
  | initiateAbort (direction : Direction) (tag : UInt8) :
    IsRecovery link (.controlIn (.toEndpoint (initiateAbort direction).code tag.toUInt16
      (link.bulkEndpoint direction)) 2 link.timing.abortTimeout)
  | checkAbort (direction : Direction) :
    IsRecovery link (.controlIn
      (.toEndpoint (checkAbort direction).code 0 (link.bulkEndpoint direction)) 8
      link.timing.abortTimeout)
  | drain :
    IsRecovery link (.bulkIn link.endpoints.bulkIn (link.maxTransferSize.toNat + headerSize)
      link.timing.abortTimeout)
  | clearHalt : IsRecovery link (.clearHalt link.endpoints.bulkOut)

variable {link : Link} {clears : Bool} {s : σ}

/-- What an operation asks, it asks for itself or to recover. -/
theorem AsksFor.isRecovery {wants : Request → Prop} {call : Call} (h : link.AsksFor wants call)
    (hp : ¬ link.IsPrimary clears call) : link.IsRecovery call := by
  cases h with
  | initiateAbort direction => exact .initiateAbort direction _
  | checkAbort direction => exact .checkAbort direction
  | drain => exact .drain
  | clearHalt => exact .clearHalt
  | notification | transfer => exact absurd trivial hp
  | _ => exact absurd rfl hp

/-- No call of the operation's own has failed. -/
def Unfailing (link : Link) (clears : Bool) (events : List Event) : Prop :=
  ∀ e ∈ events, link.IsPrimary clears e.call → e.answer.isOk

/-- An operation that began in `s` is at work, and no call of its own has failed. -/
structure Calm (dev : Device σ) (link : Link) (clears : Bool) (s : σ) (c : Connection σ) : Prop where
  sameOpening : link.SameOpening c.link
  exists_trace : ∃ events, dev.Trace s events c.device ∧ Unfailing link clears events

/-- A call of the operation's own has failed, the first that did, and none was made since. -/
structure Stopped (dev : Device σ) (link : Link) (clears : Bool) (s : σ) (error : BusError)
    (c : Connection σ) : Prop where
  sameOpening : link.SameOpening c.link
  exists_trace : ∃ before call after,
    dev.Trace s (before ++ ⟨call, .error error⟩ :: after) c.device ∧ Unfailing link clears before ∧
      link.IsPrimary clears call ∧ ∀ e ∈ after, ¬ link.IsPrimary clears e.call

/-- From here on the device answers any number of calls. -/
def Answers (dev : Device σ) (s : σ) : Prop :=
  ∀ n, ∃ events t, n ≤ events.length ∧ dev.Trace s events t ∧ ∀ e ∈ events, e.answer.isOk

/-- The answer of an operation tells of the failures of its own calls, and of no others. -/
structure Transparent {α : Type} (link : Link) (clears : Bool) (events : List Event)
    (answer : Except Failure α) : Prop where
  /-- The operation fails with a failure of the bus exactly if a call of its own has failed with it. -/
  error_iff : ∀ error, answer = .error (.bus error) ↔
    ∃ e ∈ events, link.IsPrimary clears e.call ∧ e.answer = .error error
  /-- After a call of its own that has failed it makes no other. -/
  stops : events.Pairwise fun e later =>
    link.IsPrimary clears e.call → ¬ e.answer.isOk → ¬ link.IsPrimary clears later.call
  recovers : ∀ e ∈ events, ¬ link.IsPrimary clears e.call → link.IsRecovery e.call

theorem Unfailing.isOk_of_mem {events : List Event} (h : Unfailing link clears events) {e : Event}
    (he : e ∈ events) (hp : link.IsPrimary clears e.call) (error : BusError) :
    e.answer ≠ .error error := by
  intro herror
  have hok := h e he hp
  rw [herror] at hok
  cases hok

/-- No call of the operation's own has failed, and the answer is no failure of the bus. -/
theorem Unfailing.transparent {α : Type} {answer : Except Failure α} {events : List Event}
    (h : Unfailing link clears events) (hanswer : ∀ error, answer ≠ .error (.bus error))
    (hrecovers : ∀ e ∈ events, ¬ link.IsPrimary clears e.call → link.IsRecovery e.call) :
    Transparent link clears events answer where
  error_iff error := by
    refine ⟨fun he => absurd he (hanswer error), ?_⟩
    rintro ⟨e, he, hp, herror⟩
    exact absurd herror (h.isOk_of_mem he hp error)
  stops := List.pairwise_of_forall_mem_list fun e he _ _ hp hfails => absurd (h e he hp) hfails
  recovers := hrecovers

/-- One has failed, and the answer is this failure. -/
theorem Unfailing.transparent_append {α : Type} {before after : List Event} {call : Call}
    {error : BusError} (h : Unfailing link clears before) (hcall : link.IsPrimary clears call)
    (hafter : ∀ e ∈ after, ¬ link.IsPrimary clears e.call)
    (hrecovers : ∀ e ∈ before ++ ⟨call, .error error⟩ :: after,
      ¬ link.IsPrimary clears e.call → link.IsRecovery e.call) :
    Transparent link clears (before ++ ⟨call, .error error⟩ :: after)
      (.error (.bus error) : Except Failure α) where
  error_iff error' := by
    constructor
    · intro he
      cases he
      exact ⟨_, List.mem_append_right before List.mem_cons_self, hcall, rfl⟩
    · rintro ⟨e, he, hp, herror⟩
      rcases List.mem_append.1 he with he | he
      · exact absurd herror (h.isOk_of_mem he hp error')
      · rcases List.mem_cons.1 he with rfl | he
        · cases herror
          rfl
        · exact absurd hp (hafter e he)
  stops := by
    refine List.pairwise_append.2 ⟨?_, List.pairwise_cons.2 ⟨fun later he _ _ => hafter later he, ?_⟩,
      fun e he _ _ hp hfails => absurd (h e he hp) hfails⟩
    · exact List.pairwise_of_forall_mem_list fun e he _ _ hp hfails => absurd (h e he hp) hfails
    · exact List.pairwise_of_forall_mem_list fun e he _ _ hp => absurd hp (hafter e he)
  recovers := hrecovers

/-- An operation has failed: with a failure of the bus it was stopped by that, and otherwise it was calm to
its end. It has none if the device supplies data without end. -/
def Concludes (dev : Device σ) (link : Link) (clears : Bool) (s : σ) :
    Failure → Connection σ → Prop
  | .bus error, c => Stopped dev link clears s error c
  | .oversupplied, c => Calm dev link clears s c ∧ Answers dev c.device
  | _, c => Calm dev link clears s c

/-- Calls that are none of the operation's own, from states of the opening of `link`. -/
def Aside (dev : Device σ) (link : Link) (clears : Bool) (c c' : Connection σ) : Prop :=
  link.SameOpening c.link → link.SameOpening c'.link ∧
    ∃ events, dev.Trace c.device events c'.device ∧ ∀ e ∈ events, ¬ link.IsPrimary clears e.call

instance : Std.Refl (Aside dev link clears) where
  refl _ hc := ⟨hc, [], rfl, nofun⟩

instance : IsTrans (Connection σ) (Aside dev link clears) where
  trans _ _ _ h h' hc := by
    obtain ⟨hc, events, ht, he⟩ := h hc
    obtain ⟨hc, events', ht', he'⟩ := h' hc
    exact ⟨hc, events ++ events', ht.append ht', List.forall_mem_append.2 ⟨he, he'⟩⟩

theorem calm_start (dev : Device σ) (link : Link) (clears : Bool) (s : σ) :
    Calm dev link clears s ⟨link, s⟩ :=
  ⟨rfl, [], rfl, nofun⟩

theorem Calm.aside {c c' : Connection σ} (h : Calm dev link clears s c)
    (ha : Aside dev link clears c c') : Calm dev link clears s c' := by
  obtain ⟨hc, events', ht', he'⟩ := ha h.sameOpening
  obtain ⟨events, ht, he⟩ := h.exists_trace
  exact ⟨hc, events ++ events', ht.append ht',
    List.forall_mem_append.2 ⟨he, fun e hm hp => absurd hp (he' e hm)⟩⟩

theorem Stopped.aside {error : BusError} {c c' : Connection σ}
    (h : Stopped dev link clears s error c) (ha : Aside dev link clears c c') :
    Stopped dev link clears s error c' := by
  obtain ⟨hc, events', ht', he'⟩ := ha h.sameOpening
  obtain ⟨before, call, after, ht, hbefore, hcall, hafter⟩ := h.exists_trace
  refine ⟨hc, before, call, after ++ events', ?_, hbefore, hcall,
    List.forall_mem_append.2 ⟨hafter, he'⟩⟩
  rw [← List.cons_append, ← List.append_assoc]
  exact ht.append ht'

/-- The operation goes on with another link of the opening. -/
theorem Calm.relink {c : Connection σ} (h : Calm dev link clears s c) {other : Link}
    (ho : c.link.SameOpening other) : Calm dev link clears s ⟨other, c.device⟩ :=
  ⟨h.sameOpening.trans ho, h.exists_trace⟩

/-- An action that leaves an operation calm, or fails and concludes it. -/
abbrev Calmly {α : Type} (dev : Device σ) (link : Link) (clears : Bool) (s : σ)
    (action : Exchange σ α) : Prop :=
  Ensures (Calm dev link clears s) action (fun _ => Calm dev link clears s)
    (Concludes dev link clears s)

theorem concludes_of_isVerdict {failure : Failure} {c : Connection σ} (hf : failure.isVerdict)
    (h : Calm dev link clears s c) : Concludes dev link clears s failure c := by
  cases failure with
  | bus => cases hf
  | oversupplied => cases hf
  | _ => exact h

/-- An operation that has failed has made calls of which its answer tells. -/
theorem Concludes.exists_transparent {α : Type} {failure : Failure} {c : Connection σ}
    (h : Concludes dev link clears s failure c)
    (hrecovers : ∀ events, dev.Trace s events c.device →
      ∀ e ∈ events, ¬ link.IsPrimary clears e.call → link.IsRecovery e.call) :
    ∃ events, dev.Trace s events c.device ∧
      Transparent link clears events (.error failure : Except Failure α) ∧
      (failure = .oversupplied → Answers dev c.device) := by
  have hcalm (hc : Calm dev link clears s c) (hf : ∀ error, failure ≠ .bus error) :
      ∃ events, dev.Trace s events c.device ∧
        Transparent link clears events (.error failure : Except Failure α) := by
    obtain ⟨events, ht, he⟩ := hc.exists_trace
    exact ⟨events, ht, he.transparent (fun error herror => hf error (Except.error.inj herror))
      (hrecovers events ht)⟩
  cases failure with
  | bus error =>
    obtain ⟨before, call, after, ht, hbefore, hcall, hafter⟩ := h.exists_trace
    exact ⟨_, ht, hbefore.transparent_append hcall hafter (hrecovers _ ht), nofun⟩
  | oversupplied =>
    obtain ⟨events, ht, he⟩ := hcalm h.1 nofun
    exact ⟨events, ht, he, fun _ => h.2⟩
  | _ =>
    obtain ⟨events, ht, he⟩ := hcalm h nofun
    exact ⟨events, ht, he, nofun⟩

/-! ## Calls -/

/-- What is read at the start is a link of the opening. -/
theorem calm_get_bind {α : Type} {f : Connection σ → Exchange σ α} {q : α → Connection σ → Prop}
    {e : Failure → Connection σ → Prop}
    (h : ∀ c, link.SameOpening c.link → Ensures (Calm dev link clears s) (f c) q e) :
    Ensures (Calm dev link clears s) ((get : Exchange σ (Connection σ)) >>= f) q e :=
  fun c hc => h c hc.sameOpening c hc

/-- A call of the operation's own goes well, or stops it. -/
theorem calm_or_stopped {call : Call} (hp : link.IsPrimary clears call) {c : Connection σ}
    (hc : Calm dev link clears s c) :
    match attempt dev call c with
    | (.ok _, c') => Calm dev link clears s c'
    | (.error error, c') => Stopped dev link clears s error c' := by
  obtain ⟨events, ht, he⟩ := hc.exists_trace
  unfold attempt
  rcases hmade : dev.perform call c.device with ⟨error | answer, t⟩
  · exact ⟨hc.sameOpening, events, call, [], ht.append ⟨t, hmade, rfl⟩, he, hp, nofun⟩
  · refine ⟨hc.sameOpening, events ++ [⟨call, .ok answer⟩], ht.append ⟨t, hmade, rfl⟩,
      List.forall_mem_append.2 ⟨he, ?_⟩⟩
    exact List.forall_mem_singleton.2 fun _ => rfl

theorem calm_call {call : Call} (hp : link.IsPrimary clears call) :
    Calmly dev link clears s (Link.call dev call) := by
  intro c hc
  have hmade := calm_or_stopped hp hc
  unfold Link.call
  generalize attempt dev call c = made at *
  rcases made with ⟨error | answer, c'⟩ <;> exact hmade

/-- A verdict that does not come from the bus. -/
theorem calm_ofExcept {α : Type} {answer : Except Failure α}
    (h : ∀ failure, answer = .error failure → failure.isVerdict) :
    Calmly dev link clears s (MonadExcept.ofExcept answer : Exchange σ α) := by
  intro c hc
  cases answer with
  | error failure => exact concludes_of_isVerdict (h failure rfl) hc
  | ok a => exact hc

theorem calm_throw {α : Type} {failure : Failure} (h : failure.isVerdict)
    {q : α → Connection σ → Prop} :
    Ensures (Calm dev link clears s) (throw failure : Exchange σ α) q (Concludes dev link clears s) :=
  ensures_throw fun _ => concludes_of_isVerdict h

theorem isVerdict_statusOf {what : String} {answer : List UInt8} :
    ∀ failure, statusOf what answer = .error failure → failure.isVerdict := by
  intro failure h
  cases answer with
  | nil =>
    cases h
    rfl
  | cons => cases h

theorem isVerdict_ofNotification {tag : UInt8} {notification : List UInt8} :
    ∀ failure, ofNotification tag notification = .error failure → failure.isVerdict := by
  intro failure h
  unfold ofNotification at h
  split at h
  · split at h
    · cases h
    · cases h
      rfl
  · cases h
    rfl

/-! ## Aborts and drains -/

theorem aside_get_seq {α : Type} {f : Connection σ → StateM (Connection σ) α}
    (h : ∀ c, link.SameOpening c.link → Respects (Aside dev link clears) (f c)) :
    Respects (Aside dev link clears) ((get : StateM (Connection σ) (Connection σ)) >>= f) :=
  fun c hc => h c hc c hc

theorem aside_attempt {call : Call} (hp : ¬ link.IsPrimary clears call) :
    Respects (Aside dev link clears) (attempt dev call) :=
  fun c hc => ⟨hc, _, dev.trace_perform call c.device, List.forall_mem_singleton.2 hp⟩

theorem aside_call {call : Call} (hp : ¬ link.IsPrimary clears call) :
    Respects (Aside dev link clears) (Link.call dev call) := by
  intro c
  exact aside_attempt hp c

theorem aside_drain : Respects (Aside dev link clears) (drain dev) := by
  refine aside_get_seq fun c hc => (aside_attempt fun hp => ?_).seq fun _ => respects_skip _
  have hlength : c.link.maxTransferSize.toNat + headerSize =
      link.maxTransferSize.toNat + headerSize + 3 := hp
  have hsize : c.link.maxTransferSize = link.maxTransferSize := by rw [hc]
  rw [hsize] at hlength
  omega

theorem aside_drainIfAsked (answer : List UInt8) :
    Respects (Aside dev link clears) (drainIfAsked dev answer) := by
  unfold drainIfAsked
  split
  · split
    · exact aside_drain
    · exact respects_skip ()
  · exact respects_skip ()

/-- A request to an endpoint is none of the operation's own. -/
theorem not_isPrimary_of_endpoint {setup : Setup} (h : setup.recipient = .endpoint) (length : UInt16)
    (timeout : Duration) : ¬ link.IsPrimary clears (.controlIn setup length timeout) := by
  intro hp
  have hinterface : setup.recipient = .interface := hp
  rw [h] at hinterface
  cases hinterface

theorem aside_pollStatus (procedure : Procedure) {setup : Setup} (hs : setup.recipient = .endpoint)
    (length : UInt16) {onPending : List UInt8 → StateM (Connection σ) Unit}
    (hp : ∀ answer, Respects (Aside dev link clears) (onPending answer)) (polls : Nat) :
    Respects (Aside dev link clears) (pollStatus dev procedure setup length onPending polls) := by
  induction polls with
  | zero => exact respects_get.bind fun _ => respects_throw _
  | succ polls ih =>
    refine respects_get.bind fun c => (aside_call (not_isPrimary_of_endpoint hs _ _)).bind fun answer =>
      (respects_ofExcept _).bind fun status => ?_
    split
    · exact Respects.bind (respects_lift (hp answer)) fun _ => ih
    · exact respects_pure _

theorem aside_abortTransfer (procedure : Procedure) (initiate check : Request) (endpoint tag : UInt8)
    {onPending : List UInt8 → StateM (Connection σ) Unit}
    (hp : ∀ answer, Respects (Aside dev link clears) (onPending answer)) :
    Respects (Aside dev link clears)
      (abortTransfer dev procedure initiate check endpoint tag onPending) := by
  refine aside_get_seq fun c _ =>
    (aside_attempt (not_isPrimary_of_endpoint rfl _ _)).seq fun answer => ?_
  cases answer with
  | error e => exact respects_skip false
  | ok answer =>
    dsimp only
    cases statusOf procedure.name answer with
    | error e => exact respects_skip false
    | ok status =>
      cases status with
      | success =>
        exact Respects.seq (aside_pollStatus procedure rfl 8 hp _) fun _ => respects_skip _
      | _ => exact respects_skip false

theorem not_isPrimary_clearHalt (endpoint : UInt8) : ¬ link.IsPrimary false (.clearHalt endpoint) :=
  Bool.false_ne_true

theorem aside_abortOut (tag : UInt8) : Respects (Aside dev link false) (abortOut dev tag) := by
  refine aside_get_seq fun c _ =>
    (aside_abortTransfer _ _ _ _ tag fun _ => respects_skip ()).seq fun finished => ?_
  split
  · exact (aside_attempt (not_isPrimary_clearHalt _)).seq fun _ => respects_skip ()
  · exact respects_skip ()

theorem aside_abortIn (tag : UInt8) : Respects (Aside dev link clears) (abortIn dev tag) :=
  aside_get_seq fun _ _ =>
    (aside_abortTransfer _ _ _ _ tag aside_drainIfAsked).seq fun _ => respects_skip ()

/-! ## Messages -/

/-- A transfer goes well, or stops the operation, with the recovery from a timeout aside. -/
theorem calm_or_stopped_of_recover {call : Call} (hp : link.IsPrimary clears call)
    {recover : Connection σ → Connection σ} (hr : ∀ c, Aside dev link clears c (recover c))
    {c : Connection σ} (hc : Calm dev link clears s c) :
    match attempt dev call c with
    | (.ok _, c') => Calm dev link clears s c'
    | (.error error, c') =>
      Stopped dev link clears s error (if error.isTimeout then recover c' else c') := by
  have hmade := calm_or_stopped hp hc
  generalize attempt dev call c = made at *
  rcases made with ⟨error | answer, c'⟩
  · dsimp only
    split
    · exact hmade.aside (hr c')
    · exact hmade
  · exact hmade

/-- The calls of an exchange are answered, and there is one for each request at least. -/
theorem isOk_of_mem_exchange {tags : TagCounter} {ds : List Delivery} {e : Event}
    (h : e ∈ exchange link tags ds) : e.answer.isOk := by
  induction ds generalizing tags with
  | nil => cases h
  | cons d ds ih =>
    rw [exchange, List.cons_append] at h
    rcases List.mem_cons.1 h with rfl | h
    · rfl
    · rcases List.mem_append.1 h with h | h
      · obtain ⟨transfer, -, rfl⟩ := List.mem_map.1 h
        rfl
      · exact ih h

theorem length_le_exchange (link : Link) (tags : TagCounter) (ds : List Delivery) :
    ds.length ≤ (exchange link tags ds).length := by
  induction ds generalizing tags with
  | nil => exact Nat.le_refl 0
  | cons d ds ih =>
    have hrest := ih tags.next
    rw [exchange, List.length_append, List.length_cons, List.length_cons]
    omega

/-- A device that answers request after request answers any number of calls. -/
theorem Endless.answers {c : Connection σ} (h : Endless dev c) : Answers dev c.device := by
  intro n
  obtain ⟨ds, t, hlength, -, ht⟩ := h n
  refine ⟨_, t, ?_, ht, ?_⟩
  · rw [← hlength]
    exact length_le_exchange c.link c.link.tags ds
  · exact fun e he => isOk_of_mem_exchange he

/-- The parts of a message leave an operation calm, or stop it. -/
theorem conveys_calm (dev : Device σ) (link : Link) (s : σ) :
    Conveys dev (Calm dev link false s) (fun _ => Calm dev link false s)
      (Concludes dev link false s) where
  nextTag _ hc := hc.relink rfl
  send {tag bytes} _ c hc := by
    have hp : link.IsPrimary false (.bulkOut c.link.endpoints.bulkOut bytes c.link.timing.timeout) :=
      trivial
    have hsent := calm_or_stopped_of_recover hp (aside_abortOut tag) hc
    rw [send_apply]
    generalize attempt dev _ c = sent at *
    rcases sent with ⟨error | n, c'⟩ <;> exact hsent
  receive tag c hc := by
    have hp : link.IsPrimary false (.bulkIn c.link.endpoints.bulkIn
        (c.link.maxTransferSize.toNat + headerSize + 3) c.link.timing.timeout) := by
      rw [hc.sameOpening]
      rfl
    have hreceived := calm_or_stopped_of_recover hp (aside_abortIn tag) hc
    rw [receive_apply]
    generalize attempt dev _ c = received at *
    rcases received with ⟨error | data, c'⟩ <;> exact hreceived
  idle_of_asked := id
  verdict := concludes_of_isVerdict
  endless hc hnone := ⟨hc, (endless_of_readEnvelopes? hnone).answers⟩

/-! ## Requests -/

theorem calm_request (r : Request) (value : UInt16) :
    Calmly dev link clears s (request dev r value) := by
  refine calm_get_bind fun c _ => (calm_call ?_).bind fun answer =>
    (calm_ofExcept isVerdict_statusOf).bind fun status => ?_
  · exact rfl
  · split
    · exact calm_throw rfl
    · exact ensures_pure fun _ => id

theorem calm_pulse : Calmly dev link clears s (pulse dev) := by
  refine calm_get_bind fun c _ => ?_
  split
  · exact (calm_request _ _).bind fun _ => ensures_pure fun _ => id
  · exact ensures_pure fun _ => id

theorem calm_requireRemoteLocal : Calmly dev link clears s requireRemoteLocal := by
  refine calm_get_bind fun c _ => ?_
  split
  · exact ensures_pure fun _ => id
  · exact calm_throw rfl

theorem calm_remoteControl (on : Bool) : Calmly dev link clears s (remoteControl dev on) :=
  calm_requireRemoteLocal.bind fun _ => (calm_request _ _).bind fun _ _ hc => hc.relink rfl

theorem calm_goToLocal : Calmly dev link clears s (goToLocal dev) :=
  calm_requireRemoteLocal.bind fun _ => calm_request _ _

theorem calm_localLockout : Calmly dev link clears s (localLockout dev) :=
  calm_requireRemoteLocal.bind fun _ => calm_request _ _

theorem calm_requireLockable (operation : String) :
    Calmly dev link clears s (requireLockable operation) := by
  refine calm_get_bind fun c _ => ?_
  dsimp only
  split
  · exact ensures_pure fun _ => id
  · exact calm_throw rfl

theorem calm_setLock (on : Bool) : Calmly dev link clears s (setLock dev on) := by
  refine calm_get_bind fun c _ => (calm_call ?_).bind fun _ _ hc => hc.relink rfl
  exact rfl

theorem calm_lock : Calmly dev link clears s (lock dev) :=
  (calm_requireLockable _).bind fun _ => calm_setLock true

theorem calm_unlock : Calmly dev link clears s (unlock dev) :=
  (calm_requireLockable _).bind fun _ => calm_setLock false

/-! ## Status and clear -/

theorem calm_queryStatusByte : Calmly dev link false s (queryStatusByte dev) := by
  refine ((conveys_calm dev link s).writeMessage _).bind fun _ =>
    (conveys_calm dev link s).readMessage.bind fun data => ?_
  dsimp only
  split
  · exact ensures_pure fun _ => id
  · exact calm_throw rfl

theorem calm_requestStatusByte (endpoint : Option UInt8) :
    Calmly dev link false s (requestStatusByte dev endpoint) := by
  have htag : Calmly dev link false s nextStatusTag := fun c hc => hc.relink rfl
  refine htag.bind fun tag => calm_get_bind fun c _ => (calm_call ?_).bind fun answer =>
    (calm_ofExcept isVerdict_statusOf).bind fun status => ?_
  · exact rfl
  · dsimp only
    split
    · exact ensures_throw_bind fun _ => concludes_of_isVerdict rfl
    · cases answer.drop 1 with
      | nil => exact calm_throw rfl
      | cons echo rest =>
        dsimp only
        split
        · exact ensures_throw_bind fun _ => concludes_of_isVerdict rfl
        · cases endpoint with
          | some endpoint =>
            refine (calm_call ?_).bind fun notification => calm_ofExcept isVerdict_ofNotification
            exact trivial
          | none =>
            cases rest with
            | nil => exact calm_throw rfl
            | cons status more => exact ensures_pure fun _ => id

theorem calm_readStatusByte : Calmly dev link false s (readStatusByte dev) := by
  refine calm_get_bind fun c _ => ?_
  split
  · exact calm_queryStatusByte
  · exact calm_requestStatusByte _
  · exact calm_requestStatusByte none

/-- Polling the interface. -/
theorem calm_pollStatus (procedure : Procedure) {setup : Setup} (hs : setup.recipient = .interface)
    (length : UInt16) {onPending : List UInt8 → StateM (Connection σ) Unit}
    (hp : ∀ answer, Respects (Aside dev link clears) (onPending answer)) (polls : Nat) :
    Calmly dev link clears s (pollStatus dev procedure setup length onPending polls) := by
  induction polls with
  | zero => exact calm_get_bind fun _ _ => calm_throw rfl
  | succ polls ih =>
    have hcall (timeout : Duration) : link.IsPrimary clears (.controlIn setup length timeout) := hs
    refine calm_get_bind fun c _ => (calm_call (hcall _)).bind fun answer =>
      (calm_ofExcept isVerdict_statusOf).bind fun status => ?_
    split
    · exact (ensures_lift fun c hc => hc.aside (hp answer c)).bind fun _ => ih
    · exact ensures_pure fun _ => id

theorem calm_clear : Calmly dev link true s (clear dev) := by
  refine calm_get_bind fun c _ => (calm_call ?_).bind fun answer =>
    (calm_ofExcept isVerdict_statusOf).bind fun status => ?_
  · exact rfl
  · dsimp only
    split
    · exact ensures_throw_bind fun _ => concludes_of_isVerdict rfl
    · refine (calm_pollStatus .clear rfl 2 aside_drainIfAsked _).bind fun answer =>
        (calm_ofExcept isVerdict_statusOf).bind fun status => ?_
      split
      · exact ensures_throw_bind fun _ => concludes_of_isVerdict rfl
      · exact calm_call rfl

end Link

end Benchtop
