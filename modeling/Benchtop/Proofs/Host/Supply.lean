import Benchtop.Host.Bus
import Benchtop.Proofs.Link.Ending
import Benchtop.Session

/-!
# What a host can still supply

The supply of a device on a host is bounded by the replies queued for its IN endpoints: no call adds
one, and a bulk IN transfer that succeeds has taken one (`HostBus.bounded_device`).

Main statement: reading a message in a session on a host comes to an end (`Session.neverFails_readRaw`).
-/

namespace Benchtop

open Usb

namespace Host

variable {α : Type}

/-! ## Queues -/

/-- Changing one element of a list changes the total of its measures by the change of that one. -/
theorem foldr_modify (measure : α → Nat) (f : α → α) {l : List α} {i : Nat} {a : α}
    (h : l[i]? = some a) :
    (l.modify i f).foldr (fun x n => measure x + n) 0 + measure a =
      l.foldr (fun x n => measure x + n) 0 + measure (f a) := by
  induction l generalizing i with
  | nil => simp at h
  | cons b l ih =>
    cases i with
    | zero =>
      obtain rfl : b = a := by simpa using h
      simp only [List.modify_zero_cons, List.foldr_cons]
      omega
    | succ i =>
      have := ih (by simpa using h)
      simp only [List.modify_succ_cons, List.foldr_cons]
      omega

/-- Nothing is added by a change that leaves the queues of IN endpoints alone. -/
theorem queued_modifyAt_le (h : Host) (place : Nat) {f : Peripheral → Peripheral}
    (hf : ∀ p, (f p).inQueue = p.inQueue) : (h.modifyAt place f).queued ≤ h.queued := by
  match hp : h.peripherals[place]? with
  | none => simp [modifyAt, List.modify_eq_self (List.getElem?_eq_none_iff.1 hp)]
  | some p =>
    have := foldr_modify (fun p => p.inQueue.length) f hp
    simp only [hf] at this
    simp only [modifyAt, queued]
    omega

/-- Taking a reply makes the queues one shorter. -/
theorem queued_of_takeIn {h next : Host} {place : Nat} {address : UInt8}
    {reply : Except TransferError (List UInt8)} (ht : h.takeIn place address = some (reply, next)) :
    h.queued = next.queued + 1 := by
  simp only [takeIn, Option.bind_eq_bind, Option.bind_eq_some_iff, Option.pure_def,
    Option.some.injEq, Prod.mk.injEq] at ht
  obtain ⟨p, hp, ⟨found, rest⟩, hq, -, rfl⟩ := ht
  have := foldr_modify (fun p => p.inQueue.length) (fun p => { p with inQueue := rest }) hp
  have := length_of_takeFirst hq
  simp only [modifyAt, queued] at *
  omega

/-! ## Calls -/

theorem noGain_enter (e : Event) : NoGain queued (enter e) := by
  intro h
  simp only [enter]
  split <;> exact Nat.le_refl _

theorem noGain_modifyAt (place : Nat) {f : Peripheral → Peripheral}
    (hf : ∀ p, (f p).inQueue = p.inQueue) :
    NoGain queued (modify fun h => h.modifyAt place f : Request PUnit) :=
  respects_modify fun h => queued_modifyAt_le h place hf

theorem noGain_setConfiguration (place : Nat) (value : UInt8) :
    NoGain queued (setConfiguration place value) :=
  (noGain_enter _).bind fun _ => noGain_modifyAt place fun _ => rfl

theorem noGain_detachDriver (place : Nat) (interface : UInt8) :
    NoGain queued (detachDriver place interface) := by
  refine (noGain_enter _).bind fun _ => respects_get.bind fun h => ?_
  split
  · exact noGain_modifyAt place fun _ => rfl
  · exact respects_throw _

theorem noGain_attachDriver (place : Nat) (interface : UInt8) :
    NoGain queued (attachDriver place interface) := by
  refine (noGain_enter _).bind fun _ => respects_get.bind fun h => ?_
  split
  · exact respects_throw _
  · exact noGain_modifyAt place fun _ => rfl

theorem noGain_claimInterface (place : Nat) (interface : UInt8) :
    NoGain queued (claimInterface place interface) := by
  refine (noGain_enter _).bind fun _ => respects_get.bind fun h => ?_
  split
  · exact respects_throw_bind _ _
  · exact respects_get.bind fun _ =>
      Respects.bind (respects_modify fun _ => Nat.le_refl _) fun _ => respects_pure _

theorem noGain_setAlternate (claim : Nat) (alternate : UInt8) :
    NoGain queued (setAlternate claim alternate) := by
  refine respects_get.bind fun h => ?_
  split
  · refine (noGain_enter _).bind fun _ => ?_
    dsimp only
    split
    · refine respects_get.bind fun _ => ?_
      split
      · exact respects_throw_bind _ _
      · exact respects_modify fun _ => Nat.le_refl _
    · exact respects_throw_bind _ _
  · exact respects_throw _

theorem noGain_openEndpoint (claim : Nat) (kind : TransferKind) (direction : Direction)
    (address : UInt8) : NoGain queued (openEndpoint claim kind direction address) := by
  refine (noGain_enter _).bind fun _ => respects_get.bind fun h => ?_
  split
  · dsimp only
    split
    · exact respects_throw _
    · split
      · exact respects_throw_bind _ _
      · split
        · exact respects_throw_bind _ _
        · split
          · exact respects_throw_bind _ _
          · exact Respects.bind (respects_modify fun _ => Nat.le_refl _) fun _ => respects_pure _
  · exact respects_throw _

@[simp] theorem queued_settleClaim (claim : Nat) (h : Host) :
    (settleClaim claim h).queued = h.queued := by
  unfold settleClaim
  split
  · split <;> rfl
  · rfl

@[simp] theorem queued_dropClaim (claim : Nat) (h : Host) :
    (dropClaim claim h).queued = h.queued := by
  simp only [dropClaim, queued_settleClaim]
  rfl

@[simp] theorem queued_closeEndpoint (e : OpenEndpoint) (h : Host) :
    (closeEndpoint e h).queued = h.queued := by
  simp only [closeEndpoint, queued_settleClaim]
  rfl

/-! ## Transfers -/

theorem noGain_controlIn (place : Nat) (setup : Setup) (length : UInt16) (timeout : Duration) :
    NoGain queued (controlIn place setup length timeout) := by
  refine Respects.bind (respects_modify fun _ => Nat.le_refl _) fun _ => respects_get.bind fun h => ?_
  split
  · split
    · exact Respects.bind (respects_modify fun h => queued_modifyAt_le h _ fun _ => rfl) fun _ =>
        (respects_ofExcept _).bind fun _ => respects_pure _
    · split
      · exact respects_pure _
      · exact respects_throw _
  · exact respects_throw _

theorem noGain_transferOut (e : OpenEndpoint) (data : List UInt8) (timeout : Duration) :
    NoGain queued (transferOut e data timeout) := by
  refine Respects.bind (respects_modify fun _ => Nat.le_refl _) fun _ =>
    respects_get.bind fun h => respects_get.bind fun h => ?_
  split
  · split
    · exact Respects.bind (respects_modify fun h => queued_modifyAt_le h _ fun _ => rfl) fun _ =>
        respects_ofExcept _
    · exact respects_pure _
  · exact respects_throw _

theorem noGain_transferIn (e : OpenEndpoint) (length : Nat) (timeout : Duration) :
    NoGain queued (transferIn e length timeout) := by
  intro h
  simp only [transferIn]
  split
  · exact Nat.le_refl _
  · split
    · exact Nat.le_refl _
    all_goals
      next ht =>
      have hq := queued_of_takeIn ht
      exact Nat.le_of_lt (Nat.lt_of_lt_of_eq (Nat.lt_succ_self _) hq.symm)

/-- A transfer that succeeds has taken a reply. -/
theorem spends_transferIn (e : OpenEndpoint) (length : Nat) (timeout : Duration) :
    Spends queued (transferIn e length timeout) := by
  intro h data hdata
  simp only [transferIn] at hdata ⊢
  split at hdata
  · simp at hdata
  · next hl =>
    rw [if_neg hl]
    split at hdata
    · simp at hdata
    · simp at hdata
    · next ht =>
      have hq := queued_of_takeIn ht
      exact Nat.lt_of_lt_of_eq (Nat.lt_succ_self _) hq.symm

/-! ## An opened device -/

/-- Queued replies of IN endpoints on the host of an opened device. -/
def Seat.queued (s : Seat) : Nat := s.host.queued

theorem noGain_ask (error : String → BusError) {request : Request α}
    (h : NoGain Host.queued request) : NoGain Seat.queued (ask error request) :=
  fun s => h s.host

theorem noGain_carry (endpoint : UInt8) (timeout : Duration) {transfer : Transfer α}
    (h : NoGain Host.queued transfer) : NoGain Seat.queued (carry endpoint timeout transfer) :=
  fun s => h s.host

theorem spends_carry (endpoint : UInt8) (timeout : Duration) {transfer : Transfer α}
    (h : Spends Host.queued transfer) : Spends Seat.queued (carry endpoint timeout transfer) := by
  intro s a ha
  refine h s.host a ?_
  simp only [carry] at ha
  match hr : transfer s.host with
  | (.error e, _) =>
    rw [hr] at ha
    cases ha
  | (.ok b, _) =>
    rw [hr] at ha
    cases ha
    rfl

@[simp] theorem queued_closeSlot (slot : Slot) (s : Seat) :
    (closeSlot slot s).queued = s.queued := by
  unfold closeSlot
  split
  · rfl
  · exact queued_closeEndpoint _ _

@[simp] theorem queued_letGoOfClaim (s : Seat) : (letGoOfClaim s).queued = s.queued := by
  unfold letGoOfClaim
  split
  · rfl
  · exact queued_dropClaim _ _

theorem noGain_claim (interface alternate : UInt8) :
    NoGain Seat.queued (claim interface alternate) := by
  refine respects_get.bind fun s => (noGain_ask _ (noGain_claimInterface _ _)).bind fun c => ?_
  have hput : NoGain Seat.queued
      (modify fun s => { letGoOfClaim s with opened.claim := some c } : OnDevice PUnit) :=
    respects_modify fun s => Nat.le_of_eq (queued_letGoOfClaim s)
  dsimp only
  split
  · have hset := noGain_ask (BusError.claimFailed interface) (noGain_setAlternate c alternate)
    refine Respects.bind (hset.tryCatch fun e => ?_) fun _ => hput
    exact Respects.bind (respects_modify fun s => Nat.le_of_eq (queued_dropClaim c s.host)) fun _ =>
      respects_throw e
  · exact hput

theorem noGain_endpointFor (slot : Slot) (address : UInt8) :
    NoGain Seat.queued (endpointFor slot address) := by
  refine respects_get.bind fun s => ?_
  split
  · exact respects_pure _
  · split
    · exact respects_throw _
    · refine (noGain_ask _ (noGain_openEndpoint _ _ _ _)).bind fun e => ?_
      exact Respects.bind (respects_modify fun s => Nat.le_of_eq (queued_closeSlot slot s)) fun _ =>
        respects_pure _

theorem noGain_readFrom (slot : Slot) (address : UInt8) (maxLength : Nat) (timeout : Duration) :
    NoGain Seat.queued (readFrom slot address maxLength timeout) :=
  (noGain_endpointFor slot address).bind fun e =>
    noGain_carry address timeout (noGain_transferIn e _ timeout)

theorem spends_readFrom (slot : Slot) (address : UInt8) (maxLength : Nat) (timeout : Duration) :
    Spends Seat.queued (readFrom slot address maxLength timeout) :=
  Spends.bind (noGain_endpointFor slot address) fun e =>
    spends_carry address timeout (spends_transferIn e _ timeout)

theorem noGain_perform (c : Call) : NoGain Seat.queued (perform c) := by
  cases c with
  | setConfiguration value =>
    exact respects_get.bind fun s => noGain_ask _ (noGain_setConfiguration _ value)
  | detachDriver interface =>
    refine Respects.tryCatch ?_ fun _ => respects_pure _
    exact respects_get.bind fun s =>
      (noGain_ask _ (noGain_detachDriver _ interface)).bind fun _ => respects_pure _
  | attachDriver interface =>
    exact respects_get.bind fun s => noGain_ask _ (noGain_attachDriver _ interface)
  | claim interface alternate => exact noGain_claim interface alternate
  | release interface =>
    exact respects_modify fun s => Nat.le_of_eq (by simp [releaseAll])
  | controlIn setup length timeout =>
    refine respects_get.bind fun s => ?_
    dsimp only
    split
    · exact respects_throw_bind _ _
    · exact noGain_carry _ _ (noGain_controlIn _ setup length timeout)
  | bulkOut endpoint data timeout =>
    exact (noGain_endpointFor _ endpoint).bind fun e =>
      noGain_carry _ _ (noGain_transferOut e data timeout)
  | bulkIn endpoint maxLength timeout => exact noGain_readFrom _ endpoint maxLength timeout
  | interruptIn endpoint maxLength timeout => exact noGain_readFrom _ endpoint maxLength timeout
  | clearHalt endpoint =>
    exact (noGain_endpointFor _ endpoint).bind fun e => noGain_ask _ (noGain_enter _)

end Host

/-- A device on a host can supply no more than is queued. -/
theorem HostBus.bounded_device (number : Nat) :
    (HostBus.device number).Bounded fun b => b.host.queued where
  supply_le c b := by
    simp only [device]
    split
    · exact Nat.le_refl _
    · exact Host.noGain_perform c _
  supply_lt endpoint maxLength timeout b data h := by
    simp only [device] at h ⊢
    split at h
    · simp at h
    · next hopened =>
      exact Host.spends_readFrom _ endpoint maxLength timeout _ data h

/-- Reading a message on a host comes to an end, so it does not fail with `Failure.oversupplied`, which stands
for a message without one. -/
theorem Session.neverFails_readRaw : NeverFails .oversupplied (readRaw HostBus.behaviour) := by
  intro b hfails
  unfold readRaw onLink at hfails
  split at hfails
  · cases hfails
  · next opened _ =>
    exact Link.neverFails_readMessage (HostBus.bounded_device opened.handle) ⟨opened.link, b.bus⟩ hfails

end Benchtop
