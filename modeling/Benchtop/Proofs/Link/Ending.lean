import Benchtop.Proofs.Link.Messages
import Benchtop.Proofs.Link.Moves

/-!
# Reading comes to an end

Only a message of several envelopes can go on for ever, and only on a device that never runs out of
data. Where a measure bounds what the device can still supply (`Device.Bounded`), every envelope
takes from it. Main statement: reading a message from such a device does not fail with
`Failure.oversupplied`, which stands for a message without end.
-/

namespace Benchtop.Link

open Usb Wire

variable {σ : Type} {dev : Device σ} {supply : σ → Nat}

/-- Moves add nothing to what the device can supply. -/
theorem Moves.supply_le (h : dev.Bounded supply) {c c' : Connection σ} (hm : Moves dev c c') :
    supply c'.device ≤ supply c.device := by
  induction hm with
  | refl => exact Nat.le_refl _
  | tail _ hstep ih =>
    refine Nat.le_trans ?_ ih
    cases hstep with
    | note => exact h.supply_le _ _
    | forget => exact Nat.le_refl _

theorem noGain_of_moves (h : dev.Bounded supply) {α : Type}
    {action : Connection σ → α × Connection σ} (ha : Respects (Moves dev) action) :
    NoGain (fun c => supply c.device) action :=
  ha.mono fun _ _ hm => hm.supply_le h

theorem noGain_nextTag : NoGain (fun c : Connection σ => supply c.device) nextTag :=
  fun _ => Nat.le_refl _

theorem noGain_send (h : dev.Bounded supply) (tag : UInt8) (bytes : List UInt8) :
    NoGain (fun c => supply c.device) (send dev tag bytes) := by
  refine respects_get.bind fun _ =>
    Respects.bind (respects_lift fun c => h.supply_le _ c.device) fun answer => ?_
  cases answer with
  | ok n => exact respects_pure _
  | error e =>
    dsimp only
    split
    · have habort := noGain_of_moves h (respects_moves fun _ => moves_abortOut tag)
      exact Respects.bind (respects_lift habort) fun _ => respects_throw _
    · exact respects_throw _

/-- A transfer that brings data takes from the supply. -/
theorem spends_receive (h : dev.Bounded supply) (tag : UInt8) :
    Spends (fun c => supply c.device) (receive dev tag) := by
  intro c data hd
  rw [receive_apply] at hd ⊢
  split at hd
  · next data' c' hr =>
    unfold attempt at hr
    have hlt := h.supply_lt c.link.endpoints.bulkIn (c.link.maxTransferSize.toNat + headerSize + 3)
      c.link.timing.timeout c.device data' (congrArg (·.1) hr)
    have hc : _ = c' := congrArg (·.2) hr
    rw [← hc]
    exact hlt
  · cases hd

theorem spends_requestData (h : dev.Bounded supply) :
    Spends (fun c => supply c.device) (requestData dev) := by
  refine Spends.bind noGain_nextTag fun tag => Spends.bind respects_get fun c => ?_
  refine Spends.bind (noGain_send h tag _) fun _ => ?_
  refine (spends_receive h tag).bind_noGain fun bytes => ?_
  split
  · exact respects_throw _
  · split
    · exact respects_throw_bind _ _
    · exact respects_pure _

theorem spends_readEnvelope (h : dev.Bounded supply) :
    Spends (fun c => supply c.device) (readEnvelope dev) :=
  (spends_requestData h).bind_noGain fun _ =>
    (noGain_of_moves h (respects_moves fun _ => moves_readAll _ _ _)).bind fun _ => respects_pure _

/-- A device with a bounded supply ends the message. -/
theorem isSome_readEnvelopes? (h : dev.Bounded supply) (message : List UInt8) (c : Connection σ) :
    (c.readEnvelopes? dev message).isSome := by
  -- Induction on the supply: every envelope but the last leaves less of it.
  induction hn : supply c.device using Nat.strongRecOn generalizing message c with
  | _ n ih =>
    subst hn
    rw [Connection.readEnvelopes?]
    split
    · rfl
    · rfl
    · next data c' hr =>
      have hlt := spends_readEnvelope h c (data, false) (by rw [hr])
      rw [hr] at hlt
      exact ih _ hlt _ _ rfl

/-! ## No failure for want of an end -/

/-- No part of a message fails for want of an end, and on a device with a bounded supply a message has
one. -/
theorem conveys_ending (h : dev.Bounded supply) :
    Conveys dev (fun _ => True) (fun _ _ => True) fun failure _ => failure ≠ .oversupplied where
  nextTag _ _ := trivial
  send _ c _ := by
    rw [send_apply]
    generalize attempt dev _ c = sent
    rcases sent with ⟨e | _, c'⟩
    · exact nofun
    · trivial
  receive _ c _ := by
    rw [receive_apply]
    generalize attempt dev _ c = received
    rcases received with ⟨e | _, c'⟩
    · exact nofun
    · trivial
  idle_of_asked _ := trivial
  verdict hverdict _ hfailure := by
    rw [hfailure] at hverdict
    cases hverdict
  endless {c} _ hnone := by
    have hends := isSome_readEnvelopes? h [] c
    rw [hnone] at hends
    cases hends

/-- Reading a message from a device with a bounded supply comes to an end. -/
theorem neverFails_readMessage (h : dev.Bounded supply) :
    NeverFails .oversupplied (readMessage dev) := by
  intro c hfails
  have hread := (conveys_ending h).readMessage c trivial
  generalize readMessage dev c = outcome at hread hfails
  rcases outcome with ⟨failure | message, c'⟩
  · cases hfails
    exact hread rfl
  · cases hfails

end Benchtop.Link
